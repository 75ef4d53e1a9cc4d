import IngressControl.Reconciler.Session

/-!
# Reloads

A reload goes through five stages: render the artifact, try it in a dry run, compare it with the
live one, replace the live one, and tell the proxy. It stops at the first that fails; what was
done before stays done.
-/

namespace IngressControl

/-- The settings of a reconciler. -/
structure ReconcilerSettings where
  /-- The path of the live artifact. -/
  configFile : String
  /-- The pause before the first push, in nanoseconds. -/
  firstSyncDelay : Nat := 0
  listen : ListenPorts := {}
  store : MaterialStore
  backoff : Backoff

/-- What the artifact of a snapshot refers to. -/
def ReconcilerSettings.context (settings : ReconcilerSettings) (snapshot : Snapshot) :
    RenderContext where
  fingerprint := Fingerprint.of snapshot.structural
  defaultCertificate :=
    snapshot.defaultCertificate.map fun c => settings.store.certificatePath c.name
  dhParam := snapshot.dhParam.map fun d => settings.store.dhParamPath d.name
  listen := settings.listen

namespace Session

variable {σ : Type}

/-- Renders the artifact of a snapshot. -/
def renderArtifact (s : Session σ) (c : Collaborators σ) (settings : ReconcilerSettings)
    (snapshot : Snapshot) : Session σ × Except RenderError String :=
  let context := settings.context snapshot
  let (result, world) := c.render s.world snapshot context
  ({ s with world }.record (.render context), result)

/-- Tries an artifact. -/
def dryRun (s : Session σ) (c : Collaborators σ) (artifact : String) :
    Session σ × Except CommandError Unit :=
  let (result, time, world) := c.dryRun s.world artifact
  let began := s.record (.beginDryRun artifact)
  ({ began with world, now := began.now + time }.record .endDryRun, result)

/-- Compares an artifact with the live one and replaces that. -/
def replaceArtifact (s : Session σ) (c : Collaborators σ) (path artifact : String) :
    Session σ × Except IoError Unit :=
  let s := s.record (.compareArtifact (.between (s.tree.readText path) artifact))
  let (faults, world) := c.disk s.world
  let (tree, result) := s.tree.writeAtomic faults path (Utf8.encode artifact)
  ({ s with tree, world }.record (.writeArtifact artifact), result)

/-- Tells the proxy to reload. -/
def signalReload (s : Session σ) (c : Collaborators σ) : Session σ × Except CommandError Unit :=
  let (result, world) := c.reload s.world
  ({ s with world }.record .reload, result)

/-- Goes through all stages of a reload. -/
def reload (s : Session σ) (c : Collaborators σ) (settings : ReconcilerSettings)
    (snapshot : Snapshot) : Session σ × Except Failure Unit :=
  match s.renderArtifact c settings snapshot with
  | (s, .error e) => (s, .error (.render e))
  | (s, .ok artifact) =>
    match s.dryRun c artifact with
    | (s, .error e) => (s, .error (.validation e))
    | (s, .ok ()) =>
      match s.replaceArtifact c settings.configFile artifact with
      | (s, .error e) => (s, .error (.artifactWrite settings.configFile e))
      | (s, .ok ()) =>
        match s.signalReload c with
        | (s, .error e) => (s, .error (.reloadSignal e))
        | (s, .ok ()) => (s, .ok ())

end Session

end IngressControl
