import IngressControl.Settings
import IngressControl.Toml.Decoder
import IngressControl.Toml.Document

/-!
# Settings as TOML documents

Each section is a table of the document, and each setting a key in it. What is absent keeps its
default, and other keys do not matter.
-/

namespace IngressControl

open Toml (Decoder)

/-- The table of files. -/
def FileSettings.decoder : Decoder FileSettings :=
  .record "PathsConfig"
    [.of "config_file" .path fun v s => { s with configFile := v },
      .of "ssl_dir" .path fun v s => { s with sslDirectory := v }]
    {}

/-- The table of the proxy. -/
def ProxySettings.decoder : Decoder ProxySettings :=
  .record "ProxyConfig"
    [.of "binary" .path fun v s => { s with binary := v },
      .of "command_timeout_secs" (.integer .uint64) fun v s => { s with commandTimeout := v },
      .of "control_endpoint" .text fun v s => { s with controlEndpoint := v },
      .of "control_timeout_secs" (.integer .uint64) fun v s => { s with controlTimeout := v }]
    {}

/-- The table of retries. -/
def RetrySettings.decoder : Decoder RetrySettings :=
  .record "ReconcileConfig"
    [.of "dynamic_retries" (.integer .uint32) fun v s => { s with retries := v },
      .of "retry_initial_ms" (.integer .uint64) fun v s => { s with initialDelay := v },
      .of "retry_factor" .float fun v s => { s with factor := v },
      .of "retry_jitter" .float fun v s => { s with jitter := v },
      .of "first_sync_delay_ms" (.integer .uint64) fun v s => { s with firstSyncDelay := v }]
    {}

/-- The table of ports. -/
def ListenPorts.decoder : Decoder ListenPorts :=
  .record "ListenConfig"
    [.of "default_http_port" (.integer .uint16) fun v s => { s with defaultHttp := v },
      .of "status_port" (.integer .uint16) fun v s => { s with status := v }]
    {}

/-- The table of logs and metrics. -/
def ObservationSettings.decoder : Decoder ObservationSettings :=
  .record "ObservabilityConfig"
    [.of "log_level" .text fun v s => { s with logLevel := v },
      .of "log_format" .text fun v s => { s with logFormat := v },
      .of "metrics_enabled" .flag fun v s => { s with metricsEnabled := v },
      .of "metrics_address" .text fun v s => { s with metricsAddress := v },
      .of "metrics_idle_timeout_secs" (.integer .uint64)
        fun v s => { s with metricsIdleTimeout := v }]
    {}

/-- The table of the snapshots' source. -/
def SourceSettings.decoder : Decoder SourceSettings :=
  .record "SourceConfig" [.of "snapshot_file" .path fun v s => { s with snapshotFile := v }] {}

/-- The table of the status page. -/
def AdminSettings.decoder : Decoder AdminSettings :=
  .record "AdminConfig"
    [.of "enabled" .flag fun v s => { s with enabled := v },
      .of "bind_address" .text fun v s => { s with bindAddress := v }]
    {}

/-- The sections of a document. -/
def Settings.sections : List (Toml.Field Settings) :=
  [.of "paths" FileSettings.decoder fun v s => { s with files := v },
    .of "proxy" ProxySettings.decoder fun v s => { s with proxy := v },
    .of "reconcile" RetrySettings.decoder fun v s => { s with retry := v },
    .of "listen" ListenPorts.decoder fun v s => { s with listen := v },
    .of "observability" ObservationSettings.decoder fun v s => { s with observation := v },
    .of "source" SourceSettings.decoder fun v s => { s with source := v },
    .of "admin" AdminSettings.decoder fun v s => { s with admin := v }]

end IngressControl
