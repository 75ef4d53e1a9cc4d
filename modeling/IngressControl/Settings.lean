import IngressControl.LogFormat
import IngressControl.Reconciler.Reload

/-!
# Settings of the controller

What an operator can set, by section, and the values in force where nothing is set. The settings of
a reconciler follow from them.
-/

namespace IngressControl

/-- Where the controller keeps its files. -/
structure FileSettings where
  /-- The live artifact that the proxy reads. -/
  configFile : String := "/etc/nginx/nginx.conf"
  /-- The directory of TLS material. -/
  sslDirectory : String := "/etc/ingress-controller/ssl"
deriving DecidableEq

/-- How the proxy is reached. -/
structure ProxySettings where
  binary : String := "/usr/sbin/nginx"
  /-- How many seconds a dry run or a reload may take. -/
  commandTimeout : UInt64 := 30
  /-- The URL of the control surface. -/
  controlEndpoint : String := "http://127.0.0.1:10246"
  /-- How many seconds a request to the control surface may take. -/
  controlTimeout : UInt64 := 10
deriving DecidableEq

/-- How pushes to the control surface are tried again. -/
structure RetrySettings where
  /-- How many attempts follow the first one. -/
  retries : UInt32 := 15
  /-- The first delay, in milliseconds. -/
  initialDelay : UInt64 := 1000
  factor : Float := 1.3
  jitter : Float := 0.1
  /-- The pause before the very first push, in milliseconds. -/
  firstSyncDelay : UInt64 := 1000

/-- Where snapshots come from. -/
structure SourceSettings where
  snapshotFile : String := "/var/run/ingress-controller/snapshot.json"
deriving DecidableEq

/-- Where the status page is served. -/
structure AdminSettings where
  enabled : Bool := true
  bindAddress : String := "127.0.0.1:10255"
deriving DecidableEq

/-- The settings of the controller. -/
structure Settings where
  files : FileSettings := {}
  proxy : ProxySettings := {}
  retry : RetrySettings := {}
  listen : ListenPorts := {}
  observation : ObservationSettings := {}
  source : SourceSettings := {}
  admin : AdminSettings := {}

/-- The nanoseconds of some milliseconds. -/
def nanosOfMillis (millis : UInt64) : Nat := millis.toNat * 1000000

/-- The retry schedule of pushes. -/
def RetrySettings.backoff (r : RetrySettings) : Backoff :=
  Backoff.withRetries r.retries (nanosOfMillis r.initialDelay) r.factor r.jitter

/-- The settings of the reconciler. -/
def Settings.reconciler (s : Settings) : ReconcilerSettings where
  configFile := s.files.configFile
  firstSyncDelay := nanosOfMillis s.retry.firstSyncDelay
  listen := s.listen
  store := ⟨s.files.sslDirectory⟩
  backoff := s.retry.backoff

end IngressControl
