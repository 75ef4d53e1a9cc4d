import IngressControl.ServersPayload
import IngressControl.Snapshot.Format
import IngressControl.Url.Reader

/-!
# Talking to the control surface

The proxy's control surface holds two sections: the backends, and the servers with their
certificates. A configuration is handed over by posting each section in which it differs from the
one before, the backends first. The first request that fails ends the attempt.

Redirects are the business of whoever sends a request: the client here sees the status that is returned
in the end.
-/

namespace IngressControl

/-- Why an attempt failed. -/
inductive ControlError where
  /-- The address is no URL that requests can be sent to. -/
  | endpoint (url : String)
  /-- The request got no answer. -/
  | request (url cause : String)
  /-- The surface answered with a status other than success. -/
  | rejected (url : String) (status : UInt16)
  | other (message : String)
deriving DecidableEq

/-- The text of a failed attempt. -/
def ControlError.message : ControlError → String
  | .endpoint url => "invalid control endpoint '" ++ url ++ "'"
  | .request url cause => "request to " ++ url ++ " failed: " ++ cause
  | .rejected url status =>
    url ++ " rejected the update with status " ++ String.ofList (Decimal.ofNat status.toNat)
  | .other message => message

/-- What is posted to one section of the control surface. -/
inductive SectionBody where
  | backends (items : List Backend)
  | servers (payload : ServersPayload)
deriving DecidableEq

namespace SectionBody

/-- The names on the path of a section. -/
def path : SectionBody → List String
  | .backends _ => ["configuration", "backends"]
  | .servers _ => ["configuration", "servers"]

/-- The JSON text of a section. -/
def render : SectionBody → String
  | .backends items => (Json.Shape.list Backend.shape).render items
  | .servers payload => payload.render

/-- The sections in which a configuration differs from another, in the order of their requests. -/
def changes (new old : Configuration) : List SectionBody :=
  (if new.backends = old.backends then [] else [.backends new.backends]) ++
    (if new.servers = old.servers then [] else [.servers (ServersPayload.of new)])

end SectionBody

/-- A request to the control surface. -/
structure Request where
  url : Url
  body : SectionBody
deriving DecidableEq

/-- What sending a request returns, behind all redirects that were followed. -/
inductive Reply where
  | status (code : UInt16)
  /-- No answer came. -/
  | unreachable
deriving DecidableEq

/-- Whether a status tells success. -/
def isSuccess (code : UInt16) : Bool := 200 ≤ code && code ≤ 299

namespace Request

/-- Whether a request can be sent at all. Some characters that a host may have in a URL are refused in
requests. -/
def isSendable (r : Request) : Bool :=
  (r.url.scheme = "http" || r.url.scheme = "https") &&
    !(r.url.host.any fun host => host.text.toList.any ['"', '`', '\x7b', '\x7d'].contains)

/-- How messages tell why a request got no answer. -/
def failure (r : Request) (what : String) : ControlError :=
  .request r.url.text (what ++ " for url (" ++ r.url.target.text ++ ")")

/-- What a request comes to by what sending it returned. Of an answer only the status counts. -/
def result (r : Request) : Reply → Except ControlError Unit
  | .status code => if isSuccess code then .ok () else .error (.rejected r.url.text code)
  | .unreachable => .error (r.failure "error sending request")

end Request

/-- A client of the control surface. -/
structure ControlClient where
  base : Url
deriving DecidableEq

namespace ControlClient

variable {σ : Type}

/-- The client for an endpoint. -/
def ofEndpoint (endpoint : String) : Except ControlError ControlClient :=
  match Url.parse endpoint with
  | .ok base => .ok ⟨base⟩
  | .error _ => .error (.endpoint endpoint)

/-- The request that posts a section. -/
def request (c : ControlClient) (body : SectionBody) : Except ControlError Request :=
  match c.base.atRoot? body.path with
  | some url => .ok ⟨url, body⟩
  | none => .error (.endpoint (c.base.text ++ (UrlPath.names body.path).text))

/-- Posts one section. -/
def post (c : ControlClient) (answer : σ → Request → Reply × σ) (w : σ) (body : SectionBody) :
    Except ControlError Unit × σ :=
  match c.request body with
  | .error e => (.error e, w)
  | .ok r =>
    if r.isSendable then
      let (reply, w) := answer w r
      (r.result reply, w)
    else (.error (r.failure "builder error"), w)

/-- Posts sections in order, up to the first that fails. -/
def postAll (c : ControlClient) (answer : σ → Request → Reply × σ) :
    σ → List SectionBody → Except ControlError Unit × σ
  | w, [] => (.ok (), w)
  | w, body :: rest =>
    match c.post answer w body with
    | (.error e, w) => (.error e, w)
    | (.ok (), w) => c.postAll answer w rest

/-- Hands a configuration over in the place of another: one attempt. -/
def configure (c : ControlClient) (answer : σ → Request → Reply × σ) (w : σ)
    (new old : Configuration) : Except ControlError Unit × σ :=
  c.postAll answer w (SectionBody.changes new old)

end ControlClient

end IngressControl
