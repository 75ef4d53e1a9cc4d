import IngressControl.Proofs.LiveArtifact
import IngressControl.Proofs.MaterialOnDisk

/-!
# The guard in front of the live artifact

The live artifact is replaced by nothing that the proxy's own dry run has not accepted. A call tries
the text that it rendered, and only when that is accepted it writes the very same text, and only when
that is written it tells the proxy to load it. Whatever stops a call before the last of these steps
leaves the file alone, and whatever comes behind them does not touch it any more.

The one other thing that a call writes is TLS material. A place in the tree that is none of its files
and not on the way to them is therefore as it was before the call, or it is the place of the artifact
and holds the accepted text (`artifact_guarded`).
-/

namespace IngressControl

/-- Whether a call with this outcome leaves the live artifact as it is. -/
def Outcome.leavesArtifact (o : Outcome) : Bool :=
  match o.kind with
  | .success => !o.reloaded
  | .dynamicPushFailed => !o.reloaded
  | .reloadSignalFailed => false
  | _ => true

namespace Reconciler

/-- What a call does with an artifact and the proxy. -/
inductive ProxyStep where
  | tried (artifact : String)
  | wrote (artifact : String)
  | signalled
deriving DecidableEq

/-- The step that an action is. -/
def proxyStep? : Action → Option ProxyStep
  | .beginDryRun artifact => some (.tried artifact)
  | .writeArtifact artifact => some (.wrote artifact)
  | .reload => some .signalled
  | _ => none

/-- What a call does with an artifact and the proxy, in order. -/
def Call.proxySteps {σ : Type} (k : Call σ) : List ProxyStep := k.actions.filterMap proxyStep?

variable {σ : Type} {c : Collaborators σ} {settings : ReconcilerSettings} {snapshot : Snapshot}

/-! ## One reconciliation -/

section

variable {accepts : String → Prop} {ps : List String} {signalled missed : Bool}
  {s s' s₁ s₂ s₃ s₄ : Session σ}

/-- What a stretch of a call does to the live artifact, with writes along other paths before that.
The two marks tell whether the proxy was told to load an artifact, and whether one could not be
written. -/
inductive ArtifactStep (settings : ReconcilerSettings) (accepts : String → Prop) (ps : List String)
    (s s' : Session σ) : Bool → Bool → Prop
  /-- Nothing was to be written. -/
  | left {artifact : String} {steps : List ProxyStep} (sees : Session.Sees proxyStep? s s' steps)
      (early : steps <+: [.tried artifact]) (touches : s.tree.Touches ps s'.tree) :
      ArtifactStep settings accepts ps s s' false false
  | unwritten {artifact : String}
      (sees : Session.Sees proxyStep? s s' [.tried artifact, .wrote artifact])
      (misses : s.tree.Misses ps settings.configFile s'.tree) :
      ArtifactStep settings accepts ps s s' false true
  | replaced {artifact : String} (accepted : accepts artifact)
      (sees : Session.Sees proxyStep? s s' [.tried artifact, .wrote artifact, .signalled])
      (puts : s.tree.Puts ps settings.configFile (Utf8.encode artifact) s'.tree) :
      ArtifactStep settings accepts ps s s' true false

theorem ArtifactStep.none (sees : Session.Sees proxyStep? s s' [])
    (touches : s.tree.Touches ps s'.tree) : ArtifactStep settings accepts ps s s' false false :=
  .left sees (show [] <+: [ProxyStep.tried ""] from List.nil_prefix) touches

/-- Writes along other paths may come first. -/
theorem ArtifactStep.behind {accepts' : String → Prop} (sees : Session.Sees proxyStep? s s₁ [])
    (touches : s.tree.Touches ps s₁.tree) (lift : ∀ artifact, accepts' artifact → accepts artifact)
    (h : ArtifactStep settings accepts' [] s₁ s' signalled missed) :
    ArtifactStep settings accepts ps s s' signalled missed := by
  cases h with
  | left sees' early touches' =>
    exact .left (sees.trans sees') early (touches.trans (touches'.mono (by simp)))
  | unwritten sees' misses => exact .unwritten (sees.trans sees') (misses.behind touches)
  | replaced accepted sees' puts =>
    exact .replaced (lift _ accepted) (sees.trans sees') (puts.behind touches)

/-- What writes no files and does nothing with the proxy may come last. -/
theorem ArtifactStep.quietly (h : ArtifactStep settings accepts ps s s₁ signalled missed)
    (sees : Session.Sees proxyStep? s₁ s' []) (tree : s'.tree = s₁.tree) :
    ArtifactStep settings accepts ps s s' signalled missed := by
  have appended : ∀ {steps : List ProxyStep}, Session.Sees proxyStep? s s₁ steps →
      Session.Sees proxyStep? s s' steps := by
    intro steps sees'
    simpa using sees'.trans sees
  cases h with
  | left sees' early touches => exact .left (appended sees') early (tree ▸ touches)
  | unwritten sees' misses => exact .unwritten (appended sees') (tree ▸ misses)
  | replaced accepted sees' puts => exact .replaced accepted (appended sees') (tree ▸ puts)

/-- A stretch that leaves the artifact leaves all that is clear of the other paths. -/
theorem ArtifactStep.kept {l : Trail} (h : ArtifactStep settings accepts ps s s' false missed)
    (clear : ∀ path ∈ ps, s.tree.Clear path l) :
    s'.tree.fileAt l = s.tree.fileAt l ∧
      (¬(missed = true ∧ s.tree.Passes settings.configFile l) → s'.tree.get l = s.tree.get l) := by
  cases h with
  | left sees early touches =>
    have same := touches.get l clear
    exact ⟨FileTree.fileAt_congr same, fun _ => same⟩
  | unwritten sees misses =>
    -- the directories on the way to the artifact may have been made before the write failed
    refine ⟨misses.rewrites.fileAt fun path hp => (clear path hp).1, fun blocked => ?_⟩
    exact misses.get l clear fun passes => blocked ⟨rfl, passes⟩

theorem ArtifactStep.early (h : ArtifactStep settings accepts ps s s' false missed) :
    ∃ artifact steps, Session.Sees proxyStep? s s' steps ∧
      steps <+: [.tried artifact, .wrote artifact] := by
  cases h with
  | left sees early touches => exact ⟨_, _, sees, early.trans ⟨[.wrote _], rfl⟩⟩
  | unwritten sees misses => exact ⟨_, _, sees, List.prefix_refl _⟩

theorem ArtifactStep.loaded (h : ArtifactStep settings accepts ps s s' true missed) :
    ∃ artifact, accepts artifact ∧
      Session.Sees proxyStep? s s' [.tried artifact, .wrote artifact, .signalled] ∧
      s.tree.Puts ps settings.configFile (Utf8.encode artifact) s'.tree := by
  cases h with
  | replaced accepted sees puts => exact ⟨_, accepted, sees, puts⟩

/-- The dry run of a reload accepts this text. -/
def Tested (c : Collaborators σ) (settings : ReconcilerSettings) (snapshot : Snapshot)
    (s : Session σ) (artifact : String) : Prop :=
  ∃ s₁ s₂, s.renderArtifact c settings snapshot = (s₁, .ok artifact) ∧
    s₁.dryRun c artifact = (s₂, .ok ())

/-- Up to its dry run a reload writes nothing. -/
theorem tried_of_dryRun {artifact : String} {e : Except CommandError Unit}
    (render : s.renderArtifact c settings snapshot = (s₁, .ok artifact))
    (dryRun : s₁.dryRun c artifact = (s₂, e)) :
    Session.Sees proxyStep? s s₂ [.tried artifact] ∧ s₂.tree = s.tree := by
  obtain ⟨tree₁, acts₁⟩ := Session.renderArtifact_effect render
  obtain ⟨tree₂, acts₂⟩ := Session.dryRun_effect dryRun
  exact ⟨(Session.Sees.of_actions _ acts₁).trans (.of_actions _ acts₂), tree₂.trans tree₁⟩

/-- A reload that comes to its signal has replaced the artifact by the text that was accepted. -/
theorem replaced_of_signal {artifact : String} {e : Except CommandError Unit}
    (render : s.renderArtifact c settings snapshot = (s₁, .ok artifact))
    (dryRun : s₁.dryRun c artifact = (s₂, .ok ()))
    (replace : s₂.replaceArtifact c settings.configFile artifact = (s₃, .ok ()))
    (signal : s₃.signalReload c = (s₄, e)) :
    ArtifactStep settings (Tested c settings snapshot s) [] s s₄ true false := by
  obtain ⟨sees, tree⟩ := tried_of_dryRun render dryRun
  obtain ⟨⟨_, write⟩, acts₃⟩ := Session.replaceArtifact_effect replace
  obtain ⟨tree₄, acts₄⟩ := Session.signalReload_effect signal
  rw [tree] at write
  refine .replaced ⟨s₁, s₂, render, dryRun⟩ ((sees.trans (.of_actions _ acts₃)).trans
    (.of_actions _ acts₄)) ?_
  rw [tree₄]
  exact .of_ok write

theorem loading_artifact {r : Except Failure Unit} (h : Session.Loading c settings snapshot s s' r) :
    (r = .ok () ∧ ArtifactStep settings (Tested c settings snapshot s) [] s s' true false) ∨
      ∃ e, r = .error e ∧ ArtifactStep settings (Tested c settings snapshot s) [] s s'
        (e.kind = .reloadSignalFailed) (e.kind = .artifactWriteFailed) := by
  cases h with
  | unrendered render =>
    obtain ⟨tree, acts⟩ := Session.renderArtifact_effect render
    refine Or.inr ⟨_, rfl, .none (.of_actions _ acts) ?_⟩
    rw [tree]
    exact .refl _ _
  | refused render dryRun =>
    obtain ⟨sees, tree⟩ := tried_of_dryRun render dryRun
    refine Or.inr ⟨_, rfl, .left sees (List.prefix_refl _) ?_⟩
    rw [tree]
    exact .refl _ _
  | unwritten render dryRun replace =>
    obtain ⟨sees, tree⟩ := tried_of_dryRun render dryRun
    obtain ⟨⟨_, write⟩, acts⟩ := Session.replaceArtifact_effect replace
    rw [tree] at write
    exact Or.inr ⟨_, rfl, .unwritten (sees.trans (.of_actions _ acts)) (.of_error write)⟩
  | unsignalled render dryRun replace signal =>
    exact Or.inr ⟨_, rfl, replaced_of_signal render dryRun replace signal⟩
  | loaded render dryRun replace signal =>
    exact Or.inl ⟨rfl, replaced_of_signal render dryRun replace signal⟩

/-- The dry run of a call accepts this text. -/
def Accepts (c : Collaborators σ) (settings : ReconcilerSettings) (snapshot : Snapshot)
    (p : Reconciler × Session σ) (artifact : String) : Prop :=
  ∃ s₁, (p.2.observeCertificates snapshot).syncMaterial c settings.store p.1.applied.snapshot
      snapshot = (s₁, .ok ()) ∧
    Tested c settings snapshot (s₁.record (.decideReload (p.1.reason snapshot))) artifact

/-- Bringing the material in step does nothing with an artifact and touches the files of the material
only. -/
theorem sync_artifact {applied : Option Snapshot} {e : Except Failure Unit}
    (sync : (s.observeCertificates snapshot).syncMaterial c settings.store applied snapshot =
      (s', e)) :
    Session.Sees proxyStep? s s' [] ∧ s.tree.Touches (settings.store.ways snapshot) s'.tree := by
  have touches := Session.syncMaterial_touches sync
  refine ⟨Session.syncMaterial_sees (fun _ => ⟨rfl, rfl⟩) (fun a p hp => ?_) sync, touches⟩
  cases a <;> first | rfl | simp [Session.piece?] at hp

/-- A reload behind that, with what is reported of it. -/
theorem reload_artifact {r : Reconciler} {report : List Action}
    (sync : (s.observeCertificates snapshot).syncMaterial c settings.store r.applied.snapshot
      snapshot = (s₁, .ok ()))
    (step : ArtifactStep settings
      (Tested c settings snapshot (s₁.record (.decideReload (r.reason snapshot)))) []
      (s₁.record (.decideReload (r.reason snapshot))) s₂ signalled missed)
    (silent : report.filterMap proxyStep? = []) :
    ArtifactStep settings (Accepts c settings snapshot (r, s)) (settings.store.ways snapshot) s
      { s₂ with actions := s₂.actions ++ report } signalled missed := by
  obtain ⟨sees, touches⟩ := sync_artifact sync
  have lift : ∀ artifact,
      Tested c settings snapshot (s₁.record (.decideReload (r.reason snapshot))) artifact →
        Accepts c settings snapshot (r, s) artifact :=
    fun artifact tested => ⟨s₁, sync, tested⟩
  exact (step.behind (sees.record rfl) touches lift).quietly ⟨report, rfl, silent⟩ rfl

theorem prepared_artifact {r : Reconciler} {reloaded : Bool}
    (sync : (s.observeCertificates snapshot).syncMaterial c settings.store r.applied.snapshot
      snapshot = (s₁, .ok ()))
    (h : Prepared c settings r snapshot s₁ reloaded s₂) :
    ArtifactStep settings (Accepts c settings snapshot (r, s)) (settings.store.ways snapshot) s s₂
      reloaded false := by
  cases h with
  | running calls =>
    obtain ⟨sees, touches⟩ := sync_artifact sync
    exact .none sees touches
  | reloaded calls load =>
    obtain ⟨s₃, course, rfl⟩ := Session.reloadAndReport_ok load
    rcases loading_artifact course with ⟨_, step⟩ | ⟨e, he, _⟩
    · exact reload_artifact sync step rfl
    · simp at he

/-- A call does to the live artifact what its outcome tells. -/
theorem course_artifact {r r' : Reconciler} {o : Outcome}
    (h : Course c settings r s snapshot r' s' o) :
    ArtifactStep settings (Accepts c settings snapshot (r, s)) (settings.store.ways snapshot) s s'
      o.signalled (o.kind = .artifactWriteFailed) := by
  cases h with
  | stale old => exact .none (.of_same rfl) (.refl _ _)
  | @unsynced s₁ e news sync =>
    obtain ⟨sees, touches⟩ := sync_artifact sync
    have marks : (failed snapshot e).signalled = false ∧ e.kind ≠ .artifactWriteFailed := by
      rcases (Session.syncMaterial_error sync).1 with kind | kind <;>
        simp [Outcome.signalled, failed, kind]
    rw [marks.1, show decide ((failed snapshot e).kind = .artifactWriteFailed) = false from
      decide_eq_false marks.2]
    exact .none (sees.record rfl) touches
  | unchanged news sync same =>
    obtain ⟨sees, touches⟩ := sync_artifact sync
    exact .none sees touches
  | @unloaded s₁ s₂ e news sync calls load =>
    obtain ⟨s₃, course, rfl⟩ := Session.reloadAndReport_error load
    rcases loading_artifact course with ⟨he, _⟩ | ⟨_, he, step⟩
    · simp at he
    · cases he
      exact reload_artifact sync step rfl
  | pushed news sync differs prepared push =>
    have step := prepared_artifact sync prepared
    have silent : (r.pushFigures snapshot).filterMap proxyStep? = [] := rfl
    obtain ⟨sees, tree⟩ := push_quiet (fun _ => rfl) rfl silent push
    have signalled : ∀ b, (r.taken snapshot b).signalled = b := by simp [Outcome.signalled, taken]
    rw [signalled]
    exact step.quietly sees tree
  | @unpushed s₁ s₂ s₃ reloaded e news sync differs prepared push =>
    have step := prepared_artifact sync prepared
    have silent : (r.pushFigures snapshot ++ [pushWarning e]).filterMap proxyStep? = [] := rfl
    obtain ⟨sees, tree⟩ := push_quiet (fun _ => rfl) rfl silent push
    have signalled : ∀ b, (r.untaken snapshot b e).signalled = b := by
      simp [Outcome.signalled, untaken, failed, Failure.kind]
    rw [signalled]
    exact step.quietly sees tree

/-- A call leaves the artifact, or it tells the proxy to load it. -/
theorem course_signalled {r r' : Reconciler} {o : Outcome}
    (h : Course c settings r s snapshot r' s' o) : o.signalled = !o.leavesArtifact := by
  cases h with
  | stale old => rfl
  | unsynced news sync =>
    rcases (Session.syncMaterial_error sync).1 with kind | kind <;>
      simp [Outcome.signalled, Outcome.leavesArtifact, failed, kind]
  | unchanged news sync same => rfl
  | unloaded news sync calls load =>
    obtain ⟨s₁, course, rfl⟩ := Session.reloadAndReport_error load
    rcases course.failure with kind | kind | kind | kind <;>
      simp [Outcome.signalled, Outcome.leavesArtifact, failed, kind]
  | pushed news sync differs prepared push =>
    simp [Outcome.signalled, Outcome.leavesArtifact, taken]
  | unpushed news sync differs prepared push =>
    simp [Outcome.signalled, Outcome.leavesArtifact, untaken, failed, Failure.kind]

end

/-! ## Whole runs -/

variable {xs : List Snapshot} {p : Reconciler × Session σ}

theorem ArtifactStep.rewrites {accepts : String → Prop} {ps : List String} {signalled missed : Bool}
    {s s' : Session σ} (h : ArtifactStep settings accepts ps s s' signalled missed) :
    s.tree.Rewrites (settings.configFile :: ps) s'.tree := by
  cases h with
  | left sees early touches => exact touches.rewrites.mono (by simp)
  | unwritten sees misses => exact misses.rewrites.mono (by simp)
  | replaced accepted sees puts => exact puts.rewrites

theorem callOf_artifact (c : Collaborators σ) (settings : ReconcilerSettings)
    (p : Reconciler × Session σ) (x : Snapshot) :
    ArtifactStep settings (Accepts c settings x p) (settings.store.ways x) p.2
      (callOf c settings p x).after.2 (callOf c settings p x).outcome.signalled
      ((callOf c settings p x).outcome.kind = .artifactWriteFailed) :=
  course_artifact (callOf_course c settings p x)

/-- All that a run does to the tree is to write files and to make directories. -/
theorem reached_rewrites (c : Collaborators σ) (settings : ReconcilerSettings) (xs : List Snapshot)
    (p : Reconciler × Session σ) : ∃ ps, p.2.tree.Rewrites ps (reached c settings xs p).2.tree := by
  refine history_induction (P := fun _ q => ∃ ps, p.2.tree.Rewrites ps q.2.tree) ?_ xs ?_
  · exact ⟨[], .refl _ _⟩
  · rintro _ q x _ ⟨ps, before⟩
    have step := (callOf_artifact c settings q x).rewrites
    exact ⟨ps ++ _, (before.mono (by simp)).trans (step.mono (List.subset_append_right _ _))⟩

/-- **Nothing reaches the live path that the dry run has not accepted.** A place in the tree that is
clear of all TLS material changes in a call only when it is that of the artifact, and then to the text
that the dry run of that call accepted, for the owner alone. A call that leaves the artifact leaves all
such places as they are; where it failed to write the artifact, directories may have been made on the
way to it. A call that told the proxy to load the artifact has put the accepted text in place before,
and tells the proxy once. -/
theorem artifact_guarded {k : Call σ} (hk : k ∈ history c settings xs p) {l : Trail}
    (clear : ∀ x ∈ xs, ∀ f ∈ settings.store.storable x, p.2.tree.Clear f.path l) :
    (k.after.2.tree.fileAt l ≠ k.before.2.tree.fileAt l →
        ∃ artifact, ProxyStep.tried artifact ∈ k.proxySteps ∧
          Accepts c settings k.snapshot k.before artifact ∧
          p.2.tree.place? settings.configFile = some l ∧
          k.after.2.tree.fileAt l = some (ownerOnly, Utf8.encode artifact)) ∧
      (k.outcome.leavesArtifact = true →
        k.after.2.tree.fileAt l = k.before.2.tree.fileAt l ∧
          (¬(k.outcome.kind = .artifactWriteFailed ∧ p.2.tree.Passes settings.configFile l) →
            k.after.2.tree.get l = k.before.2.tree.get l)) ∧
      (k.outcome.signalled = true →
        ∃ artifact place, k.proxySteps = [.tried artifact, .wrote artifact, .signalled] ∧
          Accepts c settings k.snapshot k.before artifact ∧
          p.2.tree.place? settings.configFile = some place ∧
          k.after.2.tree.get place = some (.file ownerOnly (Utf8.encode artifact)) ∧
          (p.2.tree.Straight settings.configFile →
            k.after.2.tree.read settings.configFile = .ok (Utf8.encode artifact))) ∧
      (k.outcome.signalled = false →
        ∃ artifact, k.proxySteps <+: [.tried artifact, .wrote artifact]) := by
  obtain ⟨ys, x, hx, rfl⟩ := history_mem hk
  obtain ⟨_, grown⟩ := reached_rewrites c settings ys p
  have step := callOf_artifact c settings (reached c settings ys p) x
  have leaves := course_signalled (callOf_course c settings (reached c settings ys p) x)
  -- what was clear in the beginning is clear before each call
  have clearNow : ∀ path ∈ settings.store.ways x,
      (reached c settings ys p).2.tree.Clear path l := by
    intro path hpath
    obtain ⟨f, hf, rfl⟩ := List.mem_map.mp hpath
    exact grown.clear (clear x hx f hf)
  cases signalled : (callOf c settings (reached c settings ys p) x).outcome.signalled with
  | false =>
    rw [signalled] at step leaves
    obtain ⟨file, node⟩ := step.kept clearNow
    obtain ⟨artifact, steps, sees, early⟩ := step.early
    refine ⟨fun changed => absurd file changed, fun _ => ⟨file, fun blocked => ?_⟩, by simp,
      fun _ => ⟨artifact, ?_⟩⟩
    · refine node fun now => blocked ⟨of_decide_eq_true now.1, grown.passes now.2⟩
    · rw [Call.proxySteps, Call.filterMap_actions sees]
      exact early
  | true =>
    rw [signalled] at step leaves
    obtain ⟨artifact, accepted, sees, puts⟩ := step.loaded
    have steps := Call.filterMap_actions sees
    refine ⟨fun changed => ⟨artifact, ?_, accepted, ?_⟩, fun left => ?_, fun _ => ?_, by simp⟩
    · rw [Call.proxySteps, steps]
      exact List.mem_cons_self
    · obtain ⟨place, file⟩ :=
        (puts.fileAt fun path hp => (clearNow path hp).1).resolve_left changed
      exact ⟨grown.place? place, file⟩
    · rw [left] at leaves
      simp at leaves
    · obtain ⟨place, hplace, file⟩ := puts.place
      exact ⟨artifact, place, steps, accepted, grown.place? hplace, file,
        fun straight => puts.read (grown.straight straight)⟩

/-- The first call of two, whose artifact is accepted, and the second one, whose artifact is not. -/
def acceptedCall : Call Script :=
  callOf Script.collaborators sampleSettings (start, opening refusal) (certified 1 "A")

def refusedCall : Call Script :=
  callOf Script.collaborators sampleSettings acceptedCall.after (certified 2 "B")

theorem oneAndOther_clear : ∀ x ∈ oneAndOther, ∀ f ∈ sampleSettings.store.storable x,
    (opening refusal).tree.Clear f.path ["nginx.conf"] := by
  decide

theorem oneAndOther_calls (k : Call Script) (h : k = acceptedCall ∨ k = refusedCall) :
    k ∈ history Script.collaborators sampleSettings oneAndOther (start, opening refusal) := by
  have calls : history Script.collaborators sampleSettings oneAndOther (start, opening refusal) =
      [acceptedCall, refusedCall] := rfl
  rw [calls]
  simpa using h

theorem acceptedCall_kinds :
    acceptedCall.outcome.signalled = true ∧ refusedCall.outcome.kind = .validationFailed := by
  decide +kernel

/-- The law says of these calls that the first one puts its artifact in place, and that the second one
leaves it. -/
theorem oneAndOther_guarded :
    (∃ artifact place, acceptedCall.proxySteps = [.tried artifact, .wrote artifact, .signalled] ∧
        acceptedCall.after.2.tree.get place = some (.file ownerOnly (Utf8.encode artifact))) ∧
      refusedCall.outcome.kind = .validationFailed ∧
      refusedCall.after.2.tree.get ["nginx.conf"] = refusedCall.before.2.tree.get ["nginx.conf"] := by
  have accepted := artifact_guarded (oneAndOther_calls acceptedCall (Or.inl rfl)) oneAndOther_clear
  have refused := artifact_guarded (oneAndOther_calls refusedCall (Or.inr rfl)) oneAndOther_clear
  obtain ⟨artifact, place, steps, _, _, file, _⟩ := accepted.2.2.1 acceptedCall_kinds.1
  have leaves : refusedCall.outcome.leavesArtifact = true := by
    rw [Outcome.leavesArtifact, acceptedCall_kinds.2]
  have kept := (refused.2.1 leaves).2 (by rw [acceptedCall_kinds.2]; simp)
  exact ⟨⟨artifact, place, steps, file⟩, acceptedCall_kinds.2, kept⟩

end Reconciler

end IngressControl
