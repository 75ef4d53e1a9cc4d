import IngressControl.Json.Shape
import IngressControl.Snapshot

/-!
# Snapshots as JSON documents

The shapes of a snapshot and of all that it holds. `Snapshot.parse` and `Snapshot.render` are the
two directions of one shape; a structural configuration is only written.
-/

namespace IngressControl

open Json (Shape Fields)

/-- Endpoints are objects; the weight may be absent. -/
def Endpoint.shape : Shape Endpoint :=
  .record "Endpoint"
    (.cons "address" (.required .text) <|
      .cons "port" (.required (.integer .uint16)) <|
      .cons "weight" (.defaulted 1 (.integer .uint32)) .nil)
    (fun (address, port, weight, _) => ⟨address, port, weight⟩)
    (fun e => (e.address, e.port, e.weight, ()))
    (fun _ => rfl)

/-- Backends are objects; only the name has to be there. -/
def Backend.shape : Shape Backend :=
  .record "Backend"
    (.cons "name" (.required .text) <|
      .cons "endpoints" (.defaulted [] (.list Endpoint.shape)) <|
      .cons "load_balance" (.optional .text) .nil)
    (fun (name, endpoints, loadBalance, _) => ⟨name, endpoints, loadBalance⟩)
    (fun b => (b.name, b.endpoints, b.loadBalance, ()))
    (fun _ => rfl)

/-- Locations are objects of a path and a backend's name. -/
def Location.shape : Shape Location :=
  .record "Location"
    (.cons "path" (.required .text) <| .cons "backend" (.required .text) .nil)
    (fun (path, backend, _) => ⟨path, backend⟩)
    (fun l => (l.path, l.backend, ()))
    (fun _ => rfl)

/-- Certificates are objects; only the PEM text has to be there. -/
def Certificate.shape : Shape Certificate :=
  .record "SslCert"
    (.cons "name" (.defaulted "" .text) <|
      .cons "pem" (.required .text) <|
      .cons "serial_number" (.optional .text) <|
      .cons "expires_at" (.optional (.integer .int64)) .nil)
    (fun (name, pem, serialNumber, expiresAt, _) => ⟨name, pem, serialNumber, expiresAt⟩)
    (fun c => (c.name, c.pem, c.serialNumber, c.expiresAt, ()))
    (fun _ => rfl)

/-- Diffie-Hellman parameters are objects of a name and the content. -/
def DhParam.shape : Shape DhParam :=
  .record "DhParam"
    (.cons "name" (.required .text) <| .cons "content" (.required .text) .nil)
    (fun (name, content, _) => ⟨name, content⟩)
    (fun d => (d.name, d.content, ()))
    (fun _ => rfl)

/-- Servers are objects; the hostname and the port have to be there. -/
def Server.shape : Shape Server :=
  .record "Server"
    (.cons "hostname" (.required .text) <|
      .cons "port" (.required (.integer .uint16)) <|
      .cons "tls" (.optional Certificate.shape) <|
      .cons "locations" (.defaulted [] (.list Location.shape)) .nil)
    (fun (hostname, port, tls, locations, _) => ⟨hostname, port, tls, locations⟩)
    (fun s => (s.hostname, s.port, s.tls, s.locations, ()))
    (fun _ => rfl)

/-- Services are objects; the port and the backend's name have to be there. -/
def Service.shape : Shape Service :=
  .record "L4Service"
    (.cons "port" (.required (.integer .uint16)) <|
      .cons "backend" (.required .text) <|
      .cons "endpoints" (.defaulted [] (.list Endpoint.shape)) <|
      .cons "proxy_protocol" (.defaulted false .flag) .nil)
    (fun (port, backend, endpoints, proxyProtocol, _) =>
      ⟨port, backend, endpoints, proxyProtocol⟩)
    (fun s => (s.port, s.backend, s.endpoints, s.proxyProtocol, ()))
    (fun _ => rfl)

/-- Snapshots are objects of which every field may be absent. -/
def Snapshot.shape : Shape Snapshot :=
  .record "Snapshot"
    (.cons "generation" (.defaulted 0 (.integer .int64)) <|
      .cons "source_checksum" (.defaulted "" .text) <|
      .cons "backends" (.defaulted [] (.list Backend.shape)) <|
      .cons "servers" (.defaulted [] (.list Server.shape)) <|
      .cons "tcp_services" (.defaulted [] (.list Service.shape)) <|
      .cons "udp_services" (.defaulted [] (.list Service.shape)) <|
      .cons "default_certificate" (.optional Certificate.shape) <|
      .cons "dh_param" (.optional DhParam.shape) .nil)
    (fun (generation, sourceChecksum, backends, servers, tcpServices, udpServices,
        defaultCertificate, dhParam, _) =>
      ⟨generation, sourceChecksum, backends, servers, tcpServices, udpServices,
        defaultCertificate, dhParam⟩)
    (fun s => (s.generation, s.sourceChecksum, s.backends, s.servers, s.tcpServices,
      s.udpServices, s.defaultCertificate, s.dhParam, ()))
    (fun _ => rfl)

/-- Configurations are objects of their four lists. -/
def Configuration.shape : Shape Configuration :=
  .record "Configuration"
    (.cons "backends" (.required (.list Backend.shape)) <|
      .cons "servers" (.required (.list Server.shape)) <|
      .cons "tcp_services" (.required (.list Service.shape)) <|
      .cons "udp_services" (.required (.list Service.shape)) .nil)
    (fun (backends, servers, tcpServices, udpServices, _) =>
      ⟨backends, servers, tcpServices, udpServices⟩)
    (fun c => (c.backends, c.servers, c.tcpServices, c.udpServices, ()))
    (fun _ => rfl)

/-- Reads a snapshot from its JSON text. -/
def Snapshot.parse (content : String) : Except Json.Problem Snapshot := Snapshot.shape.parse content

/-- The JSON text of a snapshot. -/
def Snapshot.render (s : Snapshot) : String := Snapshot.shape.render s

/-- The JSON text of a configuration. -/
def Configuration.render (c : Configuration) : String := Configuration.shape.render c

end IngressControl
