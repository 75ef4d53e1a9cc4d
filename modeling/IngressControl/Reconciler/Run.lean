import IngressControl.Reconciler.Push
import IngressControl.Reconciler.Reload
import IngressControl.Reconciler.Status

/-!
# Reconciling

A reconciler remembers the last applied snapshot and the configuration that the control surface last
took. A newer snapshot first brings the TLS material on disk in step. Then it reloads the proxy,
where the source settings, the default material or the static part of the routing differ from the
last applied snapshot, and pushes the routing; without any difference it is applied as it is.

What fails before the push leaves the memory as it was. A push that fails does not: the snapshot
counts as applied, and the next push is made in full, against the empty configuration.

A run is a list of snapshots handed in one behind the other. Callers that hand them in at the same
time are served one by one too, in the order in which they get hold of the reconciler.
-/

namespace IngressControl

/-- What a reconciler remembers of what it applied. -/
structure Applied where
  /-- The last applied snapshot. -/
  snapshot : Option Snapshot := none
  /-- The configuration that the control surface last took; empty when the last push failed. -/
  dynamic : Configuration := {}
deriving DecidableEq

/-- The structural configuration of the last applied snapshot. -/
def Applied.configuration (a : Applied) : Configuration :=
  match a.snapshot with
  | some s => s.structural
  | none => .empty

/-- What identifies the default TLS material of a snapshot: names and content identities. -/
structure MaterialKey where
  certificate : Option (String × String) := none
  dhParam : Option (String × String) := none
deriving DecidableEq

/-- The key of a snapshot's default material; without a snapshot there is none. -/
def MaterialKey.of : Option Snapshot → MaterialKey
  | none => {}
  | some s =>
    { certificate := s.defaultCertificate.map fun c => (c.name, c.identity)
      dhParam := s.dhParam.map fun d => (d.name, d.identity) }

/-- A reconciler's memory and what it has published. -/
structure Reconciler where
  applied : Applied := {}
  status : Status := {}
deriving DecidableEq

namespace Session

variable {σ : Type}

/-- Records what the certificates of a snapshot's servers are. -/
def observeCertificates (s : Session σ) (snapshot : Snapshot) : Session σ :=
  (s.record (.setCertificateExpiry snapshot.servers)).record (.setCertificateInfo snapshot.servers)

/-- Brings the file of the default certificate in step. -/
def syncCertificate (s : Session σ) (c : Collaborators σ) (store : MaterialStore)
    (certificate : Certificate) : Session σ × Except Failure Unit :=
  let (faults, world) := c.disk s.world
  match store.storeCertificate s.tree faults certificate.name (Utf8.encode certificate.pem) with
  | (tree, result) =>
    ({ s with tree, world }.record (.storeCertificate certificate),
      match result with
      | .ok _ => .ok ()
      | .error e => .error (.certificateWrite e))

/-- Brings the file of the Diffie-Hellman parameters in step. -/
def syncDhParam (s : Session σ) (c : Collaborators σ) (store : MaterialStore)
    (parameters : DhParam) : Session σ × Except Failure Unit :=
  let (faults, world) := c.disk s.world
  match store.storeDhParam s.tree faults parameters.name (Utf8.encode parameters.content) with
  | (tree, result) =>
    ({ s with tree, world }.record (.storeDhParam parameters),
      match result with
      | .ok _ => .ok ()
      | .error e => .error (.dhParamWrite e))

/-- Brings the default TLS material in step where it is not that of the last applied snapshot. -/
def syncMaterial (s : Session σ) (c : Collaborators σ) (store : MaterialStore)
    (last : Option Snapshot) (snapshot : Snapshot) : Session σ × Except Failure Unit :=
  let old := MaterialKey.of last
  let new := MaterialKey.of (some snapshot)
  let certified : Session σ × Except Failure Unit :=
    match snapshot.defaultCertificate with
    | some certificate =>
      if old.certificate = new.certificate then (s, .ok ()) else s.syncCertificate c store certificate
    | none => (s, .ok ())
  match certified with
  | (s, .error e) => (s, .error e)
  | (s, .ok ()) =>
    match snapshot.dhParam with
    | some parameters =>
      if old.dhParam = new.dhParam then (s, .ok ()) else s.syncDhParam c store parameters
    | none => (s, .ok ())

/-- Reloads the proxy, and tells whether that worked. -/
def reloadAndReport (s : Session σ) (c : Collaborators σ) (settings : ReconcilerSettings)
    (snapshot : Snapshot) (reason : ReloadReason) : Session σ × Except Failure Unit :=
  let fingerprint := Fingerprint.of snapshot.structural
  match (s.record (.decideReload reason)).reload c settings snapshot with
  | (s, .error e) =>
    (((s.record .countReloadError).record (.recordConfiguration fingerprint false)).record
      (.send (.warning ("Error reloading proxy: " ++ e.message))), .error e)
  | (s, .ok ()) =>
    (((s.record (.recordConfiguration fingerprint true)).record .countReload).record
      (.send .reloaded), .ok ())

end Session

namespace Reconciler

variable {σ : Type}

/-- Whether a snapshot is not newer than the last applied one. -/
def isStale (r : Reconciler) (snapshot : Snapshot) : Bool :=
  match r.applied.snapshot with
  | some last => snapshot.generation ≤ last.generation
  | none => false

/-- Why a snapshot calls for a reload, or that it does not. -/
def reason (r : Reconciler) (snapshot : Snapshot) : ReloadReason where
  sourceChanged := r.applied.snapshot.any fun last => last.sourceChecksum ≠ snapshot.sourceChecksum
  materialChanged := MaterialKey.of r.applied.snapshot ≠ MaterialKey.of (some snapshot)
  dynamicallyReachable :=
    Configuration.isDynamicallyReachable r.applied.configuration snapshot.structural

/-- Whether the control surface holds the last applied configuration. -/
def inSync (r : Reconciler) : Bool := r.applied.dynamic = r.applied.configuration

/-- Whether a snapshot calls for no action at all. -/
def isUnchanged (r : Reconciler) (snapshot : Snapshot) : Bool :=
  !(r.reason snapshot).calls && r.inSync &&
    Fingerprint.of snapshot.structural = Fingerprint.of r.applied.configuration

/-- Ends a reconciliation that leaves the memory as it was. -/
def keep (r : Reconciler) (o : Outcome) : Reconciler × Outcome :=
  ({ r with status := .after o r.applied.snapshot }, o)

/-- Ends a reconciliation that applied a snapshot. -/
def advance (snapshot : Snapshot) (dynamic : Configuration) (o : Outcome) : Reconciler × Outcome :=
  ({ applied := ⟨some snapshot, dynamic⟩, status := .after o (some snapshot) }, o)

/-- The outcome of a failure that leaves the memory as it was. -/
def failed (snapshot : Snapshot) (e : Failure) : Outcome where
  kind := e.kind
  generation := snapshot.generation
  fingerprint := Fingerprint.of snapshot.structural
  error := some e

/-- Waits before the first push, while the proxy starts to listen. -/
def settle (r : Reconciler) (settings : ReconcilerSettings) (s : Session σ) : Session σ :=
  if r.applied.configuration.isEmpty then s.sleep settings.firstSyncDelay else s

/-- Pushes the routing of a snapshot and applies it, whether or not the push is taken. -/
def pushAndApply (r : Reconciler) (c : Collaborators σ) (settings : ReconcilerSettings)
    (s : Session σ) (snapshot : Snapshot) (reloaded : Bool) : Reconciler × Session σ × Outcome :=
  let new := snapshot.structural
  let fingerprint := Fingerprint.of new
  let removed := Removed.between r.applied.configuration new
  let s := r.settle settings s
  let s := if r.inSync then s else s.record .resend
  let (s, result) := s.push c settings.backoff new r.applied.dynamic
  let s := (s.record (.dropSeries removed)).record (.setBackendEndpoints snapshot.backends)
  match result with
  | .ok () =>
    let o : Outcome :=
      { kind := .success, generation := snapshot.generation, fingerprint, reloaded, removed }
    let (r, o) := advance snapshot new o
    (r, s, o)
  | .error e =>
    let failure := Failure.dynamicPush e
    let s := s.record
      (.send (.warning ("Unexpected failure reconfiguring proxy: " ++ failure.message)))
    let (r, o) := advance snapshot .empty { failed snapshot failure with reloaded, removed }
    (r, s, o)

/-- Applies a snapshot whose TLS material is in step. -/
def applyRouting (r : Reconciler) (c : Collaborators σ) (settings : ReconcilerSettings)
    (s : Session σ) (snapshot : Snapshot) : Reconciler × Session σ × Outcome :=
  if r.isUnchanged snapshot then
    let (r, o) := advance snapshot r.applied.dynamic
      { kind := .noChange, generation := snapshot.generation
        fingerprint := Fingerprint.of snapshot.structural }
    (r, s, o)
  else if (r.reason snapshot).calls then
    match s.reloadAndReport c settings snapshot (r.reason snapshot) with
    | (s, .error e) =>
      let (r, o) := r.keep (failed snapshot e)
      (r, s, o)
    | (s, .ok ()) => r.pushAndApply c settings s snapshot true
  else r.pushAndApply c settings s snapshot false

/-- One reconciliation. -/
def reconcile (r : Reconciler) (c : Collaborators σ) (settings : ReconcilerSettings)
    (s : Session σ) (snapshot : Snapshot) : Reconciler × Session σ × Outcome :=
  if r.isStale snapshot then
    let (r, o) := r.keep
      { kind := .staleSnapshot, generation := snapshot.generation
        fingerprint := Fingerprint.of snapshot.structural }
    (r, s, o)
  else
    match (s.observeCertificates snapshot).syncMaterial c settings.store r.applied.snapshot
        snapshot with
    | (s, .error e) =>
      let (r, o) := r.keep (failed snapshot e)
      (r, s.record (.send (.warning e.message)), o)
    | (s, .ok ()) => r.applyRouting c settings s snapshot

/-! ## Runs -/

/-- A reconciler that has applied nothing. -/
def start : Reconciler := {}

/-- Reconciles some snapshots one behind the other. -/
def run (c : Collaborators σ) (settings : ReconcilerSettings) :
    List Snapshot → Reconciler × Session σ → Reconciler × Session σ × List Outcome
  | [], (r, s) => (r, s, [])
  | snapshot :: rest, (r, s) =>
    let (r, s, o) := r.reconcile c settings s snapshot
    let (r, s, os) := run c settings rest (r, s)
    (r, s, o :: os)

/-- The generation of the last applied snapshot. -/
def appliedGeneration (r : Reconciler) : Option Int64 := r.applied.snapshot.map (·.generation)

end Reconciler

end IngressControl
