import IngressControl.Reconciler.Outcome

/-!
# Published status

What the controller tells about itself: the generation and the fingerprint of the last applied
snapshot, and the outcome of the last reconciliation. The status page serves it over HTTP.
-/

namespace IngressControl

/-- The published state of a reconciler. -/
structure Status where
  generation : Option Int64 := none
  fingerprint : Option Fingerprint := none
  lastOutcome : Option Summary := none
deriving DecidableEq

namespace Status

/-- The state to publish after an outcome, with the snapshot that is now the last applied one. -/
def after (o : Outcome) (applied : Option Snapshot) : Status where
  generation := applied.map (·.generation)
  fingerprint := applied.map fun s => Fingerprint.of s.structural
  lastOutcome := some o.summary

/-- The members of a status as JSON. -/
def members (s : Status) : List (String × List Char) :=
  [("generation", Json.orNull (fun g : Int64 => Decimal.ofInt g.toInt) s.generation),
    ("fingerprint", Json.orNull Fingerprint.text s.fingerprint),
    ("last_outcome", Json.orNull Summary.write s.lastOutcome)]

/-- The JSON text of a status. -/
def render (s : Status) : String := String.ofList (Json.object s.members)

end Status

/-- What the status page answers to a request. -/
structure PageReply where
  code : Nat
  contentType : Option String := none
  /-- The methods that are allowed, when the one asked for is not. -/
  allow : Option String := none
  body : String := ""
deriving DecidableEq

namespace StatusPage

/-- The version that the page gives. -/
def version : String := "0.1.0"

/-- The body of `/status`. -/
def statusBody (s : Status) : String :=
  String.ofList (Json.object (("version", Json.quoted version) :: s.members))

/-- The page behind a path, if there is one. -/
def page? (s : Status) (path : String) : Option (String × String) :=
  if path = "/healthz" then some ("text/plain; charset=utf-8", "ok")
  else if path = "/status" then some ("application/json", statusBody s)
  else none

/-- The answer to a request. A page can be asked for by `GET` and, without its body, by `HEAD`. -/
def reply (s : Status) (method path : String) : PageReply :=
  match page? s path with
  | none => { code := 404 }
  | some (contentType, body) =>
    if method = "GET" then { code := 200, contentType := some contentType, body }
    else if method = "HEAD" then { code := 200, contentType := some contentType }
    else { code := 405, allow := some "GET,HEAD" }

end StatusPage

end IngressControl
