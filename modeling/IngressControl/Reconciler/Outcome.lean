import IngressControl.Artifact
import IngressControl.Change
import IngressControl.Command
import IngressControl.ControlSurface.Client
import IngressControl.MaterialStore

/-!
# Outcomes

What one reconciliation came to. Applied outcomes make the snapshot the last applied one; a failure
carries the stage that it stopped at.
-/

namespace IngressControl

/-- How a reconciliation ended. -/
inductive OutcomeKind where
  /-- Applied: the proxy was reloaded where needed and took the push. -/
  | success
  /-- Applied without any action: nothing that matters has changed. -/
  | noChange
  /-- The snapshot is not newer than the last applied one. -/
  | staleSnapshot
  | certificateWriteFailed
  | dhParamWriteFailed
  | renderFailed
  /-- The dry run refused the artifact. -/
  | validationFailed
  | artifactWriteFailed
  | reloadSignalFailed
  /-- Applied, but the proxy did not take the push. -/
  | dynamicPushFailed
deriving DecidableEq

namespace OutcomeKind

/-- The name of a kind. -/
def name : OutcomeKind → String
  | .success => "Success"
  | .noChange => "NoChange"
  | .staleSnapshot => "StaleSnapshot"
  | .certificateWriteFailed => "CertificateWriteFailed"
  | .dhParamWriteFailed => "DhParamWriteFailed"
  | .renderFailed => "RenderFailed"
  | .validationFailed => "ValidationFailed"
  | .artifactWriteFailed => "ArtifactWriteFailed"
  | .reloadSignalFailed => "ReloadSignalFailed"
  | .dynamicPushFailed => "DynamicPushFailed"

/-- Whether the snapshot became the last applied one. -/
def isApplied : OutcomeKind → Bool
  | .success => true
  | .noChange => true
  | .dynamicPushFailed => true
  | _ => false

end OutcomeKind

/-- What stopped a reconciliation. -/
inductive Failure where
  | certificateWrite (cause : StoreError)
  | dhParamWrite (cause : StoreError)
  | render (cause : RenderError)
  | validation (cause : CommandError)
  | artifactWrite (path : String) (cause : IoError)
  | reloadSignal (cause : CommandError)
  | dynamicPush (cause : ControlError)
deriving DecidableEq

namespace Failure

/-- The kind of the outcome that carries a failure. -/
def kind : Failure → OutcomeKind
  | .certificateWrite _ => .certificateWriteFailed
  | .dhParamWrite _ => .dhParamWriteFailed
  | .render _ => .renderFailed
  | .validation _ => .validationFailed
  | .artifactWrite _ _ => .artifactWriteFailed
  | .reloadSignal _ => .reloadSignalFailed
  | .dynamicPush _ => .dynamicPushFailed

/-- The text of a failure. -/
def message : Failure → String
  | .certificateWrite cause => "failed to write default certificate: " ++ cause.message
  | .dhParamWrite cause => "failed to write DH parameters: " ++ cause.message
  | .render cause => "failed to render configuration: " ++ cause.message
  | .validation cause => "configuration rejected by dry run: " ++ cause.message
  | .artifactWrite path cause => "failed to write " ++ path ++ ": " ++ cause.message
  | .reloadSignal cause => "reload command failed: " ++ cause.message
  | .dynamicPush cause => "dynamic reconfiguration failed: " ++ cause.message

end Failure

/-- The result of one reconciliation. -/
structure Outcome where
  kind : OutcomeKind
  generation : Int64
  fingerprint : Fingerprint
  /-- Whether the artifact was replaced and the proxy reloaded. -/
  reloaded : Bool := false
  /-- What the snapshot dropped, when it was applied by a push. -/
  removed : Removed := {}
  error : Option Failure := none
deriving DecidableEq

/-- What is published of an outcome. -/
structure Summary where
  kind : OutcomeKind
  generation : Int64
  fingerprint : Fingerprint
  reloaded : Bool
  error : Option String
deriving DecidableEq

/-- What is published of an outcome: the failure as its text. -/
def Outcome.summary (o : Outcome) : Summary where
  kind := o.kind
  generation := o.generation
  fingerprint := o.fingerprint
  reloaded := o.reloaded
  error := o.error.map (·.message)

/-- The JSON text of a summary. -/
def Summary.write (s : Summary) : List Char :=
  Json.object [
    ("kind", Json.quoted s.kind.name),
    ("generation", Decimal.ofInt s.generation.toInt),
    ("fingerprint", s.fingerprint.text),
    ("reloaded", Json.boolean s.reloaded),
    ("error", Json.orNull Json.quoted s.error)]

end IngressControl
