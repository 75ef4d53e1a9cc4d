import IngressControl.Net.SocketAddress
import IngressControl.Settings
import IngressControl.Url.Reader

/-!
# Rules for settings

Settings of the right types can still be useless. Eleven rules tell when they are not, each about one
field. All violated rules are reported, in the order of the rules, whatever the others say.

Three rules ask for a URL or a socket address. What these are is not for the rules to say: they go by
readers that are given to them.
-/

namespace IngressControl

/-- How the addresses in settings are read. -/
structure AddressReaders where
  url : String → Except UrlError Url
  socketAddress : String → Option SocketAddress

/-- The readers that settings are checked with when they are loaded. -/
def AddressReaders.standard : AddressReaders where
  url := Url.parse
  socketAddress := SocketAddress.parse?

/-- A rule that settings have to keep. -/
inductive Rule where
  | absoluteConfigFile
  | someSslDirectory
  | positiveCommandTimeout
  | positiveControlTimeout
  | webControlEndpoint
  | growingRetryDelay
  | boundedRetryJitter
  | someDefaultHttpPort
  | knownLogFormat
  | metricsSocketAddress
  | adminSocketAddress
deriving DecidableEq

namespace Rule

/-- All rules, in the order in which they are reported. -/
def all : List Rule :=
  [absoluteConfigFile, someSslDirectory, positiveCommandTimeout, positiveControlTimeout,
    webControlEndpoint, growingRetryDelay, boundedRetryJitter, someDefaultHttpPort, knownLogFormat,
    metricsSocketAddress, adminSocketAddress]

/-- The field that a rule is about. -/
def field : Rule → String
  | absoluteConfigFile => "paths.config_file"
  | someSslDirectory => "paths.ssl_dir"
  | positiveCommandTimeout => "proxy.command_timeout_secs"
  | positiveControlTimeout => "proxy.control_timeout_secs"
  | webControlEndpoint => "proxy.control_endpoint"
  | growingRetryDelay => "reconcile.retry_factor"
  | boundedRetryJitter => "reconcile.retry_jitter"
  | someDefaultHttpPort => "listen.default_http_port"
  | knownLogFormat => "observability.log_format"
  | metricsSocketAddress => "observability.metrics_address"
  | adminSocketAddress => "admin.bind_address"

/-- A complaint unless a condition holds. -/
def demand (condition : Bool) (complaint : String) : Option String :=
  if condition then none else some complaint

/-- What is wrong with the URL of the control surface. -/
def endpointComplaint? (readers : AddressReaders) (endpoint : String) : Option String :=
  match readers.url endpoint with
  | .error e => some ("invalid URL: " ++ e.message)
  | .ok u =>
    demand (u.scheme = "http" ∨ u.scheme = "https") ("unsupported scheme '" ++ u.scheme ++ "'")

/-- What a rule finds wrong with some settings, if they violate it. -/
def complaint? (readers : AddressReaders) (s : Settings) : Rule → Option String
  | absoluteConfigFile => demand (Path.isAbsolute s.files.configFile) "must be an absolute path"
  | someSslDirectory => demand (s.files.sslDirectory ≠ "") "must not be empty"
  | positiveCommandTimeout => demand (s.proxy.commandTimeout ≠ 0) "must be greater than 0"
  | positiveControlTimeout => demand (s.proxy.controlTimeout ≠ 0) "must be greater than 0"
  | webControlEndpoint => endpointComplaint? readers s.proxy.controlEndpoint
  | growingRetryDelay => demand (s.retry.factor.isFinite && 1.0 ≤ s.retry.factor) "must be >= 1.0"
  | boundedRetryJitter =>
    demand (0.0 ≤ s.retry.jitter && s.retry.jitter ≤ 1.0) "must be between 0.0 and 1.0"
  | someDefaultHttpPort => demand (s.listen.defaultHttp ≠ 0) "must be non-zero"
  | knownLogFormat =>
    demand (s.observation.logFormat = "pretty" ∨ s.observation.logFormat = "json")
      ("expected 'pretty' or 'json', got '" ++ s.observation.logFormat ++ "'")
  | metricsSocketAddress =>
    demand (!s.observation.metricsEnabled ||
        (readers.socketAddress s.observation.metricsAddress).isSome) "must be a socket address"
  | adminSocketAddress =>
    demand (!s.admin.enabled || (readers.socketAddress s.admin.bindAddress).isSome)
      "must be a socket address"

end Rule

/-- A rule that some settings violate, and what it finds wrong. -/
structure Violation where
  rule : Rule
  complaint : String
deriving DecidableEq

/-- The text of a violation. -/
def Violation.message (v : Violation) : String := v.rule.field ++ ": " ++ v.complaint

/-- All rules that some settings violate. -/
def Settings.violations (s : Settings) (readers : AddressReaders) : List Violation :=
  Rule.all.filterMap fun rule => (rule.complaint? readers s).map fun complaint => ⟨rule, complaint⟩

end IngressControl
