import IngressControl.Reconciler.Action

/-!
# Metrics

The series that reconciliations leave behind. A series appears with its first value; counters add
up and gauges keep the last value. Series of what is gone are no longer touched.
-/

namespace IngressControl

/-- What is shown of the certificate that a server uses. -/
structure CertificateInfo where
  host : String
  name : String
  /-- The content identity of the certificate. -/
  identifier : String
  /-- Empty when the certificate has none. -/
  serialNumber : String
deriving DecidableEq

/-- What is shown of a server's certificate, if it has one. -/
def CertificateInfo.of? (s : Server) : Option CertificateInfo :=
  s.tls.map fun c =>
    { host := s.hostname, name := c.name, identifier := c.identity
      serialNumber := c.serialNumber.getD "" }

/-- The name of a series and its labels. -/
structure SeriesKey where
  name : String
  labels : List (String × String) := []
deriving DecidableEq

/-- The value of a series. -/
inductive Sample where
  | counter (n : Nat)
  | gauge (x : Float)
  /-- A gauge that holds the time at which it was last set. -/
  | time

/-- All series, in the order of their appearance. -/
abbrev Metrics := List (SeriesKey × Sample)

namespace Metrics

/-- Changes the value of a series, which is `none` when it is new. -/
def update (key : SeriesKey) (f : Option Sample → Sample) : Metrics → Metrics
  | [] => [(key, f none)]
  | (k, v) :: rest => if k = key then (k, f (some v)) :: rest else (k, v) :: update key f rest

/-- Adds to a counter. -/
def add (m : Metrics) (name : String) (labels : List (String × String)) (n : Nat) : Metrics :=
  m.update ⟨name, labels⟩ fun v =>
    match v with
    | some (.counter k) => .counter (k + n)
    | _ => .counter n

/-- Sets a gauge. -/
def set (m : Metrics) (name : String) (labels : List (String × String)) (x : Float) : Metrics :=
  m.update ⟨name, labels⟩ fun _ => .gauge x

/-- Records when a server's certificate expires, if that is known. -/
def setExpiry (m : Metrics) (s : Server) : Metrics :=
  match s.tls.bind (·.expiresAt) with
  | some time =>
    m.set "ingress_controller_ssl_expire_time_seconds" [("host", s.hostname)] (.ofInt time.toInt)
  | none => m

/-- Records which certificate a server uses. -/
def setInfo (m : Metrics) (s : Server) : Metrics :=
  match CertificateInfo.of? s with
  | some info =>
    m.set "ingress_controller_ssl_certificate_info"
      [("host", info.host), ("identifier", info.identifier), ("secret_name", info.name),
        ("serial_number", info.serialNumber)] 1.0
  | none => m

/-- Records a configuration that was tried. -/
def setConfiguration (m : Metrics) (fingerprint : Fingerprint) (works : Bool) : Metrics :=
  let m := m.set "ingress_controller_config_hash" [] fingerprint.gauge
  let m := m.set "ingress_controller_config_last_reload_successful" [] (if works then 1.0 else 0.0)
  if works then
    m.update ⟨"ingress_controller_config_last_reload_successful_timestamp_seconds", []⟩
      fun _ => .time
  else m

/-- Counts what is gone, by kind. -/
def countRemoved (m : Metrics) (r : Removed) : Metrics :=
  if r.isEmpty then m
  else
    let count (m : Metrics) (kind : String) (names : List String) : Metrics :=
      m.add "ingress_controller_removed_resources_total" [("kind", kind)] names.length
    count (count (count m "backend" r.backends) "host" r.hosts) "certificate" r.certificates

/-- Records how many endpoints a backend has. -/
def setEndpoints (m : Metrics) (b : Backend) : Metrics :=
  m.set "ingress_controller_backend_endpoints" [("backend", b.name)] (.ofNat b.endpoints.length)

/-- The series after an action. -/
def after (m : Metrics) : Action → Metrics
  | .setCertificateExpiry servers => servers.foldl setExpiry m
  | .setCertificateInfo servers => servers.foldl setInfo m
  | .recordConfiguration fingerprint works => m.setConfiguration fingerprint works
  | .countReload => m.add "ingress_controller_reloads_total" [] 1
  | .countReloadError => m.add "ingress_controller_reload_errors_total" [] 1
  | .dropSeries removed => m.countRemoved removed
  | .setBackendEndpoints backends => backends.foldl setEndpoints m
  | _ => m

/-- The series that some actions leave behind. -/
def of (actions : List Action) : Metrics := actions.foldl after []

end Metrics

end IngressControl
