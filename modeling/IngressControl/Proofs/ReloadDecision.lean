import IngressControl.Proofs.GuardedArtifact
import IngressControl.Proofs.StaticLayer
import Mathlib.Data.Finset.Basic

/-!
# When the proxy is reloaded

A load sets up what the running proxy cannot change: the settings of the source, the default material,
the sockets, the certificates of the servers and the services below HTTP. `Snapshot.SameLayer` says that
two snapshots agree in all of that, ports and certificates taken as sets. It is told without the
reconciler, whose own test is spread over a comparison of keys, one of checksums and the differ; that
the two come to the same is `calls_iff`.

A new snapshot whose material is in step takes the way through the dry run just when it does not agree
with the last applied one. Everything else may be edited without the proxy being touched, and
`Snapshot.Rerouted` names the edits: backends, hostnames, locations, the order of the servers, and of
their certificates all but the content. Before anything was applied a snapshot is measured against an
empty one.
-/

namespace IngressControl

namespace Configuration

/-- The ports that a configuration listens on. -/
def ports (c : Configuration) : Finset UInt16 :=
  (c.servers.map (·.port)).toFinset ∪ (c.tcpServices.map (·.port)).toFinset ∪
    (c.udpServices.map (·.port)).toFinset

/-- The content identities of the servers' certificates. -/
def identities (c : Configuration) : Finset String := (c.certificates.map (·.identity)).toFinset

variable {old new : Configuration}

theorem listenerPorts_eq_iff : old.listenerPorts = new.listenerPorts ↔ old.ports = new.ports := by
  rw [listenerPorts, listenerPorts, sortedSet_eq_iff, ports, ports, Finset.ext_iff]
  simp only [List.mem_append, Finset.mem_union, List.mem_toFinset]

theorem certificateIdentities_eq_iff :
    old.certificateIdentities = new.certificateIdentities ↔ old.identities = new.identities := by
  rw [certificateIdentities, certificateIdentities, sortedSet_eq_iff, identities, identities,
    List.toFinset.ext_iff]

end Configuration

namespace Snapshot

variable {a b : Snapshot}

/-- Two snapshots agree in all that a load sets up. -/
structure SameLayer (a b : Snapshot) : Prop where
  source : a.sourceChecksum = b.sourceChecksum
  certificate : a.defaultCertificate.map (fun c => (c.name, c.identity)) =
    b.defaultCertificate.map (fun c => (c.name, c.identity))
  dhParam : a.dhParam.map (fun d => (d.name, d.identity)) =
    b.dhParam.map (fun d => (d.name, d.identity))
  ports : a.structural.ports = b.structural.ports
  identities : a.structural.identities = b.structural.identities
  tcpServices : a.tcpServices = b.tcpServices
  udpServices : a.udpServices = b.udpServices

theorem covers_iff : a.Covers b ↔ a.SameLayer b := by
  constructor
  · intro h
    obtain ⟨ports, certificates, tcp, udp⟩ := Configuration.isDynamicallyReachable_iff.mp h.reachable
    obtain ⟨certificate, dhParam⟩ := MaterialKey.mk.inj h.material
    exact ⟨h.source, certificate, dhParam, Configuration.listenerPorts_eq_iff.mp ports,
      Configuration.certificateIdentities_eq_iff.mp certificates, tcp, udp⟩
  · intro h
    refine ⟨Configuration.isDynamicallyReachable_iff.mpr ⟨?_, ?_, h.tcpServices, h.udpServices⟩,
      h.source, ?_⟩
    · exact Configuration.listenerPorts_eq_iff.mpr h.ports
    · exact Configuration.certificateIdentities_eq_iff.mpr h.identities
    · exact congrArg₂ MaterialKey.mk h.certificate h.dhParam

/-- What a server takes up of the static layer: its port, and the content of its certificate. -/
def staticPart (s : Server) : UInt16 × Option String := (s.port, s.tls.map (·.pem))

/-- Nothing was edited but backends, hostnames, locations, the order of the servers, and the names,
serial numbers and expiry times of their certificates. -/
structure Rerouted (a b : Snapshot) : Prop where
  source : a.sourceChecksum = b.sourceChecksum
  defaultCertificate : a.defaultCertificate = b.defaultCertificate
  dhParam : a.dhParam = b.dhParam
  servers : (a.servers.map staticPart).Perm (b.servers.map staticPart)
  tcpServices : a.tcpServices = b.tcpServices
  udpServices : a.udpServices = b.udpServices

theorem Rerouted.sameLayer (h : a.Rerouted b) : a.SameLayer b := by
  have ports : (a.servers.map (·.port)).toFinset = (b.servers.map (·.port)).toFinset := by
    have permuted := h.servers.map Prod.fst
    rw [List.map_map, List.map_map] at permuted
    exact List.toFinset_eq_of_perm _ _ permuted
  -- the identities are a function of the contents alone
  have identity : ∀ c : Configuration, c.certificates.map (·.identity) =
      (c.servers.map staticPart).filterMap fun part =>
        part.2.map fun pem => contentIdentity (Utf8.encode pem) := by
    intro c
    rw [Configuration.certificates, List.map_filterMap, List.filterMap_map]
    refine List.filterMap_congr fun s _ => ?_
    cases htls : s.tls <;> simp [staticPart, htls, Certificate.identity]
  refine ⟨h.source, by rw [h.defaultCertificate], by rw [h.dhParam], ?_, ?_, h.tcpServices,
    h.udpServices⟩
  · simp only [Configuration.ports, structural, ports, h.tcpServices, h.udpServices]
  · rw [Configuration.identities, Configuration.identities, identity, identity]
    exact List.toFinset_eq_of_perm _ _ (h.servers.filterMap _)

end Snapshot

namespace Reconciler

variable {σ : Type} {c : Collaborators σ} {settings : ReconcilerSettings} {snapshot : Snapshot}

/-- What a snapshot is measured against: the last applied one, and before that an empty one that was made
from the same settings. -/
def baseline (r : Reconciler) (snapshot : Snapshot) : Snapshot :=
  r.applied.snapshot.getD { sourceChecksum := snapshot.sourceChecksum }

/-- A reload is called for just when a snapshot needs another static layer. -/
theorem calls_iff (r : Reconciler) (snapshot : Snapshot) :
    (r.reason snapshot).calls = true ↔ ¬(r.baseline snapshot).SameLayer snapshot := by
  have measured : r.applied.configuration = (r.baseline snapshot).structural ∧
      MaterialKey.of r.applied.snapshot = MaterialKey.of (some (r.baseline snapshot)) ∧
      ((r.applied.snapshot.any fun last => last.sourceChecksum ≠ snapshot.sourceChecksum) = true ↔
        (r.baseline snapshot).sourceChecksum ≠ snapshot.sourceChecksum) := by
    unfold baseline Applied.configuration
    cases r.applied.snapshot with
    | none => exact ⟨rfl, rfl, by simp⟩
    | some last => exact ⟨rfl, rfl, by simp⟩
  rw [← Snapshot.covers_iff, ReloadReason.calls, reason, measured.1, measured.2.1]
  simp only [Bool.or_eq_true, decide_eq_true_eq, Bool.not_eq_true', measured.2.2]
  constructor
  · rintro ((source | material) | unreachable) covers
    · exact source covers.source
    · exact material covers.material
    · simp [covers.reachable] at unreachable
  · intro differs
    by_contra same
    simp only [not_or, Bool.not_eq_false, not_not] at same
    exact differs ⟨same.2, same.1.1, same.1.2⟩

/-! ## One reconciliation -/

section

variable {r r' : Reconciler} {s s' : Session σ} {o : Outcome} {reloaded : Bool}
  {answer : Except ControlError Unit}

/-- A reload gets to the dry run unless the artifact cannot be rendered. -/
theorem loading_tried {result : Except Failure Unit}
    (h : Session.Loading c settings snapshot s s' result) :
    ∃ steps, Session.Sees proxyStep? s s' steps ∧
      ((∃ artifact, .tried artifact ∈ steps) ∨ ∃ e, result = .error (.render e)) := by
  -- what comes behind the dry run adds steps at the end
  have behind : ∀ {s₁ : Session σ} {artifact : String} {steps : List ProxyStep},
      Session.Sees proxyStep? s s₁ [.tried artifact] → Session.Sees proxyStep? s₁ s' steps →
        ∃ steps, Session.Sees proxyStep? s s' steps ∧
          ((∃ artifact, .tried artifact ∈ steps) ∨ ∃ e, result = .error (.render e)) :=
    fun tried later => ⟨_, tried.trans later, Or.inl ⟨_, List.mem_cons_self⟩⟩
  cases h with
  | unrendered render =>
    exact ⟨_, .of_actions _ (Session.renderArtifact_effect render).2, Or.inr ⟨_, rfl⟩⟩
  | refused render dryRun =>
    exact behind (tried_of_dryRun render dryRun).1 (.of_same rfl)
  | unwritten render dryRun replace =>
    exact behind (tried_of_dryRun render dryRun).1
      (.of_actions _ (Session.replaceArtifact_effect replace).2)
  | unsignalled render dryRun replace signal =>
    exact behind (tried_of_dryRun render dryRun).1
      ((Session.Sees.of_actions _ (Session.replaceArtifact_effect replace).2).trans
        (.of_actions _ (Session.signalReload_effect signal).2))
  | loaded render dryRun replace signal =>
    exact behind (tried_of_dryRun render dryRun).1
      ((Session.Sees.of_actions _ (Session.replaceArtifact_effect replace).2).trans
        (.of_actions _ (Session.signalReload_effect signal).2))

/-- A push comes behind a dry run just when a reload is called for. -/
theorem Pushing.tried_iff (h : Pushing c settings r s snapshot reloaded s' answer)
    (figures : List Action) (silent : figures.filterMap proxyStep? = []) :
    ∃ steps, Session.Sees proxyStep? s { s' with actions := s'.actions ++ figures } steps ∧
      ((∃ artifact, .tried artifact ∈ steps) ↔ (r.reason snapshot).calls = true) := by
  obtain ⟨sync, prepared, push⟩ := h
  have sees := (sync_artifact sync).1
  have later := (push_quiet (fun _ => rfl) rfl silent push).1
  cases prepared with
  | running calls => exact ⟨_, sees.trans later, by simp [calls]⟩
  | reloaded calls load =>
    obtain ⟨s₄, course, rfl⟩ := Session.reloadAndReport_ok load
    obtain ⟨steps, loading, ⟨artifact, listed⟩ | ⟨e, failed⟩⟩ := loading_tried course
    · exact ⟨_, (sees.trans (sees_reported rfl rfl loading)).trans later,
        iff_of_true ⟨artifact, by simp [listed]⟩ calls⟩
    · cases failed

/-- The proxy was reloaded before a push just when that was called for. -/
theorem Pushing.reloaded_iff (h : Pushing c settings r s snapshot reloaded s' answer) :
    reloaded = true ↔ (r.reason snapshot).calls = true := by
  obtain ⟨sync, prepared, push⟩ := h
  cases prepared with
  | reloaded calls load => simp [calls]
  | running calls => simp [calls]

/-- A new snapshot whose material is in step is tried, or cannot be rendered, just when a reload is
called for. -/
theorem Course.tried_iff (h : Course c settings r s snapshot r' s' o)
    (news : r.isStale snapshot = false)
    (synced : ((s.observeCertificates snapshot).syncMaterial c settings.store r.applied.snapshot
      snapshot).2 = .ok ()) :
    ∃ steps, Session.Sees proxyStep? s s' steps ∧
      (((∃ artifact, .tried artifact ∈ steps) ∨ o.kind = .renderFailed) ↔
        (r.reason snapshot).calls = true) := by
  cases h with
  | stale old => simp [old] at news
  | unsynced news sync => simp [sync] at synced
  | unchanged news sync same =>
    exact ⟨[], (sync_artifact sync).1, by simp [calls_of_unchanged same, quiet]⟩
  | unloaded news sync calls load =>
    obtain ⟨s₂, course, rfl⟩ := Session.reloadAndReport_error load
    obtain ⟨steps, loading, reached⟩ := loading_tried course
    refine ⟨_, (sync_artifact sync).1.trans (sees_reported rfl rfl loading),
      iff_of_true ?_ calls⟩
    rcases reached with ⟨artifact, listed⟩ | ⟨e, failed⟩
    · exact Or.inl ⟨artifact, by simpa using listed⟩
    · cases failed
      exact Or.inr rfl
  | pushed news sync differs prepared push =>
    obtain ⟨steps, sees, tried⟩ :=
      Pushing.tried_iff ⟨sync, prepared, push⟩ (r.pushFigures snapshot) rfl
    exact ⟨steps, sees, by simp [tried, taken]⟩
  | unpushed news sync differs prepared push =>
    obtain ⟨steps, sees, tried⟩ :=
      Pushing.tried_iff ⟨sync, prepared, push⟩ (r.pushFigures snapshot ++ [pushWarning _]) rfl
    exact ⟨steps, sees, by simp [tried, untaken, failed, Failure.kind]⟩

/-- An outcome tells of a reload just when it was called for and the snapshot was applied. -/
theorem Course.reloaded_iff (h : Course c settings r s snapshot r' s' o) :
    o.reloaded = true ↔ o.kind.isApplied = true ∧ (r.reason snapshot).calls = true := by
  cases h with
  | stale old => simp [quiet, OutcomeKind.isApplied]
  | unsynced news sync =>
    exact iff_of_false (by simp [failed]) (by simp [notApplied_of_unsynced sync])
  | unchanged news sync same => simp [quiet, calls_of_unchanged same]
  | unloaded news sync calls load =>
    obtain ⟨s₁, course, rfl⟩ := Session.reloadAndReport_error load
    exact iff_of_false (by simp [failed]) (by simp [notApplied_of_unloaded course])
  | pushed news sync differs prepared push =>
    have reloaded := Pushing.reloaded_iff ⟨sync, prepared, push⟩
    simpa [taken, OutcomeKind.isApplied] using reloaded
  | unpushed news sync differs prepared push =>
    have reloaded := Pushing.reloaded_iff ⟨sync, prepared, push⟩
    simpa [untaken, failed, Failure.kind, OutcomeKind.isApplied] using reloaded

/-- Whether an action does nothing to files and to the proxy: it records figures of certificates and
endpoints, hands a configuration to the control surface, or sends an event. -/
def ofUpdate : Action → Bool
  | .setCertificateExpiry _ => true
  | .setCertificateInfo _ => true
  | .resend => true
  | .configure _ _ _ => true
  | .dropSeries _ => true
  | .setBackendEndpoints _ => true
  | .send _ => true
  | _ => false

/-- The action, if it is none of these. -/
def invasive? (a : Action) : Option Action := if ofUpdate a then none else some a

theorem observeCertificates_leaves (s : Session σ) (snapshot : Snapshot) :
    Session.Sees invasive? s (s.observeCertificates snapshot) [] :=
  ((Session.Sees.of_same rfl).record rfl).record rfl

/-- A push that no reload is called for leaves files and proxy alone. -/
theorem Pushing.leavesProxy (h : Pushing c settings r s snapshot reloaded s' answer)
    (calls : (r.reason snapshot).calls = false) {figures : List Action}
    (silent : figures.filterMap invasive? = []) :
    Session.Sees invasive? s { s' with actions := s'.actions ++ figures } [] ∧ s'.tree = s.tree := by
  obtain ⟨sync, prepared, push⟩ := h
  rw [syncMaterial_of_quiet calls] at sync
  cases sync
  cases prepared with
  | reloaded called load => simp [calls] at called
  | running _ =>
    obtain ⟨sees, tree⟩ := push_quiet (fun _ => rfl) rfl silent push
    exact ⟨(observeCertificates_leaves s snapshot).trans sees, tree⟩

/-- Where no reload is called for, files and proxy are left alone. -/
theorem Course.leavesProxy (h : Course c settings r s snapshot r' s' o)
    (calls : (r.reason snapshot).calls = false) :
    Session.Sees invasive? s s' [] ∧ s'.tree = s.tree ∧ o.reloaded = false := by
  have notReloaded : o.reloaded = false :=
    Bool.eq_false_iff.mpr fun told => by simpa [calls] using h.reloaded_iff.mp told
  suffices left : Session.Sees invasive? s s' [] ∧ s'.tree = s.tree from
    ⟨left.1, left.2, notReloaded⟩
  cases h with
  | stale old => exact ⟨.of_same rfl, rfl⟩
  | unsynced news sync => simp [syncMaterial_of_quiet calls] at sync
  | unchanged news sync same =>
    rw [syncMaterial_of_quiet calls] at sync
    cases sync
    exact ⟨observeCertificates_leaves s snapshot, rfl⟩
  | unloaded news sync called load => simp [calls] at called
  | pushed news sync differs prepared push =>
    exact Pushing.leavesProxy ⟨sync, prepared, push⟩ calls rfl
  | unpushed news sync differs prepared push =>
    exact Pushing.leavesProxy ⟨sync, prepared, push⟩ calls rfl

end

/-- A call that leaves files and proxy as they are. -/
structure Call.LeavesProxy (k : Call σ) : Prop where
  actions : ∀ a ∈ k.actions, ofUpdate a = true
  tree : k.after.2.tree = k.before.2.tree
  notReloaded : k.outcome.reloaded = false

theorem callOf_leavesProxy (c : Collaborators σ) (settings : ReconcilerSettings)
    {p : Reconciler × Session σ} {x : Snapshot} (same : (p.1.baseline x).SameLayer x) :
    (callOf c settings p x).LeavesProxy := by
  have calls : (p.1.reason x).calls = false :=
    Bool.eq_false_iff.mpr fun calls => (calls_iff p.1 x).mp calls same
  obtain ⟨sees, tree, notReloaded⟩ := (callOf_course c settings p x).leavesProxy calls
  refine ⟨fun a ha => ?_, tree, notReloaded⟩
  have none := List.filterMap_eq_nil_iff.mp (Call.filterMap_actions sees) a ha
  simpa [invasive?] using none

/-- **The proxy is reloaded exactly when it has to be.** A new snapshot whose material is in step is
tried, or cannot be rendered, just when it does not agree with the one it is measured against in what a
load sets up. Where it agrees, whatever else was edited, files and proxy are left alone; and a snapshot
that was applied tells of a reload just when it did not agree. -/
theorem reload_decided (c : Collaborators σ) (settings : ReconcilerSettings)
    (p : Reconciler × Session σ) (x : Snapshot) :
    ((∀ last, p.1.applied.snapshot = some last → last.generation < x.generation) →
      ((p.2.observeCertificates x).syncMaterial c settings.store p.1.applied.snapshot x).2 = .ok () →
        (((∃ artifact, .beginDryRun artifact ∈ (callOf c settings p x).actions) ∨
            (callOf c settings p x).outcome.kind = .renderFailed) ↔
          ¬(p.1.baseline x).SameLayer x)) ∧
      ((p.1.baseline x).SameLayer x → (callOf c settings p x).LeavesProxy) ∧
      ((p.1.baseline x).Rerouted x → (callOf c settings p x).LeavesProxy) ∧
      ((callOf c settings p x).outcome.kind.isApplied = true →
        ((callOf c settings p x).outcome.reloaded = true ↔ ¬(p.1.baseline x).SameLayer x)) := by
  have course := callOf_course c settings p x
  refine ⟨fun newer synced => ?_, callOf_leavesProxy c settings,
    fun edits => callOf_leavesProxy c settings edits.sameLayer, fun isApplied => ?_⟩
  · obtain ⟨steps, sees, tried⟩ := course.tried_iff ((isStale_eq_false_iff p.1 x).mpr newer) synced
    rw [← calls_iff, ← tried, ← Call.filterMap_actions sees]
    refine or_congr_left (exists_congr fun artifact => ?_)
    rw [List.mem_filterMap]
    constructor
    · exact fun listed => ⟨_, listed, rfl⟩
    · rintro ⟨a, listed, found⟩
      cases a <;> simp [proxyStep?] at found
      rwa [found] at listed
  · rw [← calls_iff, course.reloaded_iff, and_iff_right isApplied]

/-- A server, the same one on another port, and one of another name in its place. -/
def served : Snapshot := { generation := 1, servers := [{ hostname := "a.example", port := 80 }] }

def servedElsewhere : Snapshot :=
  { generation := 2, servers := [{ hostname := "a.example", port := 81 }] }

def servedRenamed : Snapshot :=
  { generation := 2, servers := [{ hostname := "b.example", port := 80 }] }

/-- What stands behind the call that applied the server. -/
def behindServed : Reconciler × Session Script :=
  (callOf Script.collaborators sampleSettings (start, opening {}) served).after

/-- The law says of the next call that the server on another port is tried and reloaded, and that the one
of another name leaves the proxy alone. -/
theorem served_decided :
    (∀ last, behindServed.1.applied.snapshot = some last →
        last.generation < servedElsewhere.generation) ∧
      ((behindServed.2.observeCertificates servedElsewhere).syncMaterial Script.collaborators
        sampleSettings.store behindServed.1.applied.snapshot servedElsewhere).2 = .ok () ∧
      ((∃ artifact, .beginDryRun artifact ∈
          (callOf Script.collaborators sampleSettings behindServed servedElsewhere).actions) ∨
        (callOf Script.collaborators sampleSettings behindServed servedElsewhere).outcome.kind =
          .renderFailed) ∧
      (callOf Script.collaborators sampleSettings behindServed servedElsewhere).outcome.reloaded =
        true ∧
      (behindServed.1.baseline servedRenamed).Rerouted servedRenamed ∧
      (callOf Script.collaborators sampleSettings behindServed servedRenamed).LeavesProxy := by
  have newer := (isStale_eq_false_iff behindServed.1 servedElsewhere).mp (by decide +kernel)
  have synced : ((behindServed.2.observeCertificates servedElsewhere).syncMaterial
      Script.collaborators sampleSettings.store behindServed.1.applied.snapshot
      servedElsewhere).2 = .ok () := by decide +kernel
  have isApplied : (callOf Script.collaborators sampleSettings behindServed
      servedElsewhere).outcome.kind.isApplied = true := by decide +kernel
  have applied : behindServed.1.applied.snapshot = some served := by decide +kernel
  have differs : ¬(behindServed.1.baseline servedElsewhere).SameLayer servedElsewhere := by
    intro same
    have ports := same.ports
    rw [baseline, applied] at ports
    exact absurd ports (by decide)
  have rerouted : (behindServed.1.baseline servedRenamed).Rerouted servedRenamed := by
    rw [baseline, applied]
    exact ⟨rfl, rfl, rfl, by decide, rfl, rfl⟩
  have law := reload_decided Script.collaborators sampleSettings behindServed servedElsewhere
  have leaves := (reload_decided Script.collaborators sampleSettings behindServed
    servedRenamed).2.2.1 rerouted
  exact ⟨newer, synced, (law.1 newer synced).mpr differs, (law.2.2.2 isApplied).mpr differs, rerouted,
    leaves⟩

end Reconciler

end IngressControl
