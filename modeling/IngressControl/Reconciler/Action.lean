import IngressControl.Reconciler.Outcome

/-!
# Actions

What a reconciliation does to the world outside of it, in order: figures it records, files it
writes, commands it gives to the proxy, events it sends.
-/

namespace IngressControl

/-- How much an event calls for attention. -/
inductive EventKind where
  | normal
  | warning
deriving DecidableEq

/-- The name of an event's kind. -/
def EventKind.name : EventKind → String
  | .normal => "Normal"
  | .warning => "Warning"

/-- A message about a reconciliation. -/
structure Event where
  kind : EventKind
  message : String
deriving DecidableEq

namespace Event

/-- The reason that every event gives. -/
def reason : String := "RELOAD"

/-- The event of a reload. -/
def reloaded : Event := ⟨.normal, "Proxy reload triggered due to a change in configuration"⟩

/-- The event of a failure. -/
def warning (message : String) : Event := ⟨.warning, message⟩

end Event

/-- Why the proxy has to be reloaded. -/
structure ReloadReason where
  /-- The settings behind the snapshot are not those of the last applied one. -/
  sourceChanged : Bool
  /-- The default TLS material is not that of the last applied one. -/
  materialChanged : Bool
  /-- The change of routing could be applied to the running proxy. -/
  dynamicallyReachable : Bool
deriving DecidableEq

/-- Whether the proxy has to be reloaded. -/
def ReloadReason.calls (r : ReloadReason) : Bool :=
  r.sourceChanged || r.materialChanged || !r.dynamicallyReachable

/-- How a new artifact compares with the live one. -/
inductive ArtifactChange where
  /-- There is no live artifact that can be read as text. -/
  | none
  | identical
  /-- So many lines differ, place by place. -/
  | lines (count : Nat)
deriving DecidableEq

namespace ArtifactChange

/-- The number of places at which two lists of lines differ. -/
def countChanged : List (List Char) → List (List Char) → Nat
  | [], [] => 0
  | [], _ :: new => countChanged [] new + 1
  | _ :: old, [] => countChanged old [] + 1
  | a :: old, b :: new => countChanged old new + if a = b then 0 else 1

/-- Compares the live artifact with a new one. -/
def between (live : Except IoError String) (new : String) : ArtifactChange :=
  match live with
  | .error _ => .none
  | .ok old =>
    if old = new then .identical else .lines (countChanged (linesOf old) (linesOf new))

end ArtifactChange

/-- One thing done to the world outside. -/
inductive Action where
  /-- Record when the certificates of these servers expire. -/
  | setCertificateExpiry (servers : List Server)
  /-- Record which certificates these servers use. -/
  | setCertificateInfo (servers : List Server)
  /-- Bring the file of the default certificate in step. -/
  | storeCertificate (certificate : Certificate)
  /-- Bring the file of the Diffie-Hellman parameters in step. -/
  | storeDhParam (parameters : DhParam)
  /-- Decide to reload the proxy. -/
  | decideReload (reason : ReloadReason)
  /-- Render an artifact. -/
  | render (context : RenderContext)
  /-- Begin the dry run of an artifact. -/
  | beginDryRun (artifact : String)
  /-- End the dry run. -/
  | endDryRun
  /-- Compare the new artifact with the live one. -/
  | compareArtifact (change : ArtifactChange)
  /-- Replace the live artifact. -/
  | writeArtifact (artifact : String)
  /-- Tell the proxy to reload. -/
  | reload
  /-- Record the last configuration that was tried, and whether it works. -/
  | recordConfiguration (fingerprint : Fingerprint) (works : Bool)
  /-- Count a reload. -/
  | countReload
  /-- Count a reload that failed. -/
  | countReloadError
  /-- Send an event. -/
  | send (event : Event)
  /-- Notice that the control surface does not hold the last applied configuration. -/
  | resend
  /-- Hand a configuration to the control surface, relative to an old one, at a point of time. -/
  | configure (time : Nat) (new old : Configuration)
  /-- Drop the series of what is gone. -/
  | dropSeries (removed : Removed)
  /-- Record how many endpoints the backends have. -/
  | setBackendEndpoints (backends : List Backend)
deriving DecidableEq

end IngressControl
