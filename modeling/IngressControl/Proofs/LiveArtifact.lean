import IngressControl.Proofs.Reconciler.History

/-!
# The live artifact

The artifact on disk should be the one that the proxy was last made to load. It is replaced before
the proxy is told, though, and when telling it fails nothing brings the old one back: the file then
holds what the proxy was *told* to load last. A snapshot that is applied behind that, because it
equals the last applied one in all that a reload is for, leaves the file alone.

So the live artifact is the text rendered in the last call that told the proxy to reload, whether or
not the proxy obeyed (`live_iff`). That it is the text of the last reload comes down to these two
texts being the same.
-/

namespace IngressControl

/-- The file at a path holds exactly this text; without a text there is no file. -/
def FileTree.Live (t : FileTree) (path : String) (text : Option String) : Prop :=
  ∀ content, t.read path = .ok content ↔ text.map Utf8.encode = some content

theorem FileTree.live_unique {t : FileTree} {path : String} {a b : Option String}
    (ha : t.Live path a) (hb : t.Live path b) : a = b := by
  have bytes : a.map Utf8.encode = b.map Utf8.encode := by
    refine Option.ext fun content => ?_
    rw [← ha content, ← hb content]
  exact Option.map_injective (fun _ _ => Utf8.encode_injective) bytes

/-- Whether the proxy was told to load the new artifact; it may have failed to. -/
def Outcome.signalled (o : Outcome) : Bool := o.reloaded || o.kind = .reloadSignalFailed

namespace Reconciler

variable {σ : Type} {c : Collaborators σ} {settings : ReconcilerSettings} {snapshot : Snapshot}

/-- The text of an artifact that an action tries. -/
def triedText : Action → Option String
  | .beginDryRun artifact => some artifact
  | _ => none

/-- The artifact that was rendered in a call, when it came to a dry run. -/
def Call.rendered (k : Call σ) : Option String := (k.actions.filterMap triedText).head?

/-- The artifact rendered in the last one of certain calls. -/
def lastRendered (which : Outcome → Bool) (calls : List (Call σ)) : Option String :=
  (calls.filter (fun k => which k.outcome)).getLast?.bind Call.rendered

theorem lastRendered_snoc (which : Outcome → Bool) (calls : List (Call σ)) (k : Call σ) :
    lastRendered which (calls ++ [k]) =
      if which k.outcome then k.rendered else lastRendered which calls := by
  unfold lastRendered
  rw [List.filter_append]
  by_cases h : which k.outcome = true
  · simp [h]
  · simp [h]

/-! ## One reconciliation -/

section

variable {t₀ : FileTree} {last : Option Bytes} {s s' s₁ s₂ s₃ s₄ : Session σ}

theorem tried_of_signal {artifact : String} {e : Except CommandError Unit}
    (holds : t₀.Holds settings.configFile last s.tree) (straight : t₀.Straight settings.configFile)
    (render : s.renderArtifact c settings snapshot = (s₁, .ok artifact))
    (dryRun : s₁.dryRun c artifact = (s₂, .ok ()))
    (replace : s₂.replaceArtifact c settings.configFile artifact = (s₃, .ok ()))
    (signal : s₃.signalReload c = (s₄, e)) :
    Session.Sees triedText s s₄ [artifact] ∧
      t₀.Holds settings.configFile (some (Utf8.encode artifact)) s₄.tree := by
  obtain ⟨tree₁, acts₁⟩ := Session.renderArtifact_effect render
  obtain ⟨tree₂, acts₂⟩ := Session.dryRun_effect dryRun
  obtain ⟨rewrites, read, acts₃⟩ := Session.replaceArtifact_ok replace
  obtain ⟨tree₄, acts₄⟩ := Session.signalReload_effect signal
  constructor
  · exact (((Session.Sees.of_actions _ acts₁).trans (.of_actions _ acts₂)).trans
      (.of_actions _ acts₃)).trans (.of_actions _ acts₄)
  · rw [tree₂, tree₁] at rewrites read
    rw [tree₄]
    exact holds.overwritten rewrites (read (holds.straight straight))

/-- A reload leaves the artifact that the proxy was told to load last. -/
theorem loading_live {r : Except Failure Unit} (h : Session.Loading c settings snapshot s s' r)
    (holds : t₀.Holds settings.configFile last s.tree)
    (straight : t₀.Straight settings.configFile) :
    (∃ e, r = .error e ∧ e.kind ≠ .reloadSignalFailed ∧
        t₀.Holds settings.configFile last s'.tree) ∨
      ((r = .ok () ∨ ∃ e, r = .error e ∧ e.kind = .reloadSignalFailed) ∧
        ∃ artifact, Session.Sees triedText s s' [artifact] ∧
          t₀.Holds settings.configFile (some (Utf8.encode artifact)) s'.tree) := by
  -- up to the replacement the file is left alone
  cases h with
  | unrendered render =>
    obtain ⟨tree, _⟩ := Session.renderArtifact_effect render
    exact Or.inl ⟨_, rfl, by simp [Failure.kind], tree ▸ holds⟩
  | refused render dryRun =>
    obtain ⟨tree₁, _⟩ := Session.renderArtifact_effect render
    obtain ⟨tree₂, _⟩ := Session.dryRun_effect dryRun
    exact Or.inl ⟨_, rfl, by simp [Failure.kind], by rw [tree₂, tree₁]; exact holds⟩
  | unwritten render dryRun replace =>
    obtain ⟨tree₁, _⟩ := Session.renderArtifact_effect render
    obtain ⟨tree₂, _⟩ := Session.dryRun_effect dryRun
    obtain ⟨made, _⟩ := Session.replaceArtifact_error replace
    rw [tree₂, tree₁] at made
    exact Or.inl ⟨_, rfl, by simp [Failure.kind], holds.grown made⟩
  | unsignalled render dryRun replace signal =>
    -- the file holds the new text already
    exact Or.inr ⟨Or.inr ⟨_, rfl, rfl⟩, _,
      tried_of_signal holds straight render dryRun replace signal⟩
  | loaded render dryRun replace signal =>
    exact Or.inr ⟨Or.inl rfl, _, tried_of_signal holds straight render dryRun replace signal⟩

/-- The material is brought in step apart from the live artifact. -/
theorem sync_live {r : Except Failure Unit} {applied : Option Snapshot}
    (sync : (s.observeCertificates snapshot).syncMaterial c settings.store applied snapshot =
      (s', r))
    (holds : t₀.Holds settings.configFile last s.tree)
    (apart : ∀ p ∈ settings.store.storable snapshot, t₀.Apart p.path settings.configFile) :
    Session.Sees triedText s s' [] ∧ t₀.Holds settings.configFile last s'.tree := by
  constructor
  · refine Session.syncMaterial_sees (fun _ => ⟨rfl, rfl⟩) (fun a p hp => ?_) sync
    cases a <;> first | rfl | simp [Session.piece?] at hp
  · have observed : t₀.Holds settings.configFile last (s.observeCertificates snapshot).tree := holds
    refine observed.elsewhere (fun q hq => ?_) (Session.syncMaterial_touches sync).rewrites
    obtain ⟨p, hp, rfl⟩ := List.mem_map.mp hq
    exact apart p hp

theorem prepared_live {r : Reconciler} {reloaded : Bool}
    (h : Prepared c settings r snapshot s reloaded s')
    (holds : t₀.Holds settings.configFile last s.tree)
    (straight : t₀.Straight settings.configFile) :
    (reloaded = false ∧ s' = s) ∨
      (reloaded = true ∧ ∃ artifact, Session.Sees triedText s s' [artifact] ∧
        t₀.Holds settings.configFile (some (Utf8.encode artifact)) s'.tree) := by
  cases h with
  | running calls => exact Or.inl ⟨rfl, rfl⟩
  | reloaded calls load =>
    obtain ⟨s₁, course, rfl⟩ := Session.reloadAndReport_ok load
    rcases loading_live course holds straight with ⟨e, he, _⟩ | ⟨_, artifact, sees, kept⟩
    · simp at he
    · exact Or.inr ⟨rfl, artifact, sees_reported rfl rfl sees, kept⟩

/-- A push behind this changes nothing of it. -/
theorem pushed_live {r : Reconciler} {reloaded : Bool} {e : Except ControlError Unit}
    {new old : Configuration} {figures : List Action} {applied : Option Snapshot}
    (silent : figures.filterMap triedText = [])
    (sync : (s.observeCertificates snapshot).syncMaterial c settings.store applied snapshot =
      (s₁, .ok ()))
    (prepared : Prepared c settings r snapshot s₁ reloaded s₂)
    (push : (r.beforePush settings s₂).push c settings.backoff new old = (s₃, e))
    (holds : t₀.Holds settings.configFile last s.tree)
    (straight : t₀.Straight settings.configFile)
    (apart : ∀ p ∈ settings.store.storable snapshot, t₀.Apart p.path settings.configFile) :
    (reloaded = false ∧ t₀.Holds settings.configFile last s₃.tree) ∨
      (reloaded = true ∧ ∃ artifact,
        Session.Sees triedText s { s₃ with actions := s₃.actions ++ figures } [artifact] ∧
        t₀.Holds settings.configFile (some (Utf8.encode artifact)) s₃.tree) := by
  obtain ⟨sees₁, holds₁⟩ := sync_live sync holds apart
  obtain ⟨sees₃, tree⟩ := push_quiet (fun _ => rfl) rfl silent push
  rw [tree]
  rcases prepared_live prepared holds₁ straight with ⟨rfl, rfl⟩ | ⟨rfl, artifact, sees₂, kept⟩
  · exact Or.inl ⟨rfl, holds₁⟩
  · exact Or.inr ⟨rfl, artifact, (sees₁.trans sees₂).trans sees₃, kept⟩

/-- What a reconciliation leaves at the path of the live artifact: what it told the proxy to load,
or what was there. -/
theorem course_live {r r' : Reconciler} {o : Outcome}
    (h : Course c settings r s snapshot r' s' o)
    (holds : t₀.Holds settings.configFile last s.tree)
    (straight : t₀.Straight settings.configFile)
    (apart : ∀ p ∈ settings.store.storable snapshot, t₀.Apart p.path settings.configFile) :
    (o.signalled = false ∧ t₀.Holds settings.configFile last s'.tree) ∨
      (o.signalled = true ∧ ∃ artifact, Session.Sees triedText s s' [artifact] ∧
        t₀.Holds settings.configFile (some (Utf8.encode artifact)) s'.tree) := by
  cases h with
  | stale old => exact Or.inl ⟨rfl, holds⟩
  | unsynced news sync =>
    obtain ⟨kind, _⟩ := Session.syncMaterial_error sync
    refine Or.inl ⟨?_, (sync_live sync holds apart).2⟩
    rcases kind with kind | kind <;> simp [Outcome.signalled, failed, kind]
  | unchanged news sync same => exact Or.inl ⟨rfl, (sync_live sync holds apart).2⟩
  | @unloaded s₁ s₂ e news sync calls load =>
    obtain ⟨sees₁, holds₁⟩ := sync_live sync holds apart
    obtain ⟨s₃, course, rfl⟩ := Session.reloadAndReport_error load
    -- of all failures of a reload only that of the signal comes behind the replacement
    rcases loading_live course holds₁ straight with
      ⟨_, he, kind, kept⟩ | ⟨reached, artifact, sees₂, kept⟩
    · cases he
      exact Or.inl ⟨by simp [Outcome.signalled, failed, kind], kept⟩
    · have signalled : e.kind = .reloadSignalFailed := by
        rcases reached with ok | ⟨_, he, kind⟩
        · simp at ok
        · cases he; exact kind
      refine Or.inr ⟨by simp [Outcome.signalled, failed, signalled], artifact, ?_, kept⟩
      exact sees₁.trans (sees_reported rfl rfl sees₂)
  | pushed news sync differs prepared push =>
    have silent : (r.pushFigures snapshot).filterMap triedText = [] := rfl
    rcases pushed_live silent sync prepared push holds straight apart with
      ⟨rfl, kept⟩ | ⟨rfl, artifact, sees, kept⟩
    · exact Or.inl ⟨rfl, kept⟩
    · exact Or.inr ⟨rfl, artifact, sees, kept⟩
  | @unpushed s₁ s₂ s₃ reloaded e news sync differs prepared push =>
    have silent : (r.pushFigures snapshot ++ [pushWarning e]).filterMap triedText = [] := rfl
    rcases pushed_live silent sync prepared push holds straight apart with
      ⟨rfl, kept⟩ | ⟨rfl, artifact, sees, kept⟩
    · exact Or.inl ⟨rfl, kept⟩
    · exact Or.inr ⟨rfl, artifact, sees, kept⟩

end

/-! ## Whole runs -/

variable {xs : List Snapshot} {p : Reconciler × Session σ}

theorem call_live (c : Collaborators σ) {t₀ : FileTree} {done : List (Call σ)}
    (straight : t₀.Straight settings.configFile)
    (apart : ∀ x ∈ settings.store.storable snapshot, t₀.Apart x.path settings.configFile)
    (holds : t₀.Holds settings.configFile
      ((lastRendered Outcome.signalled done).map Utf8.encode) p.2.tree) :
    t₀.Holds settings.configFile ((lastRendered Outcome.signalled
        (done ++ [callOf c settings p snapshot])).map Utf8.encode)
      (callOf c settings p snapshot).after.2.tree := by
  rw [lastRendered_snoc]
  rcases course_live (callOf_course c settings p snapshot) holds straight apart with
    ⟨silent, kept⟩ | ⟨signalled, artifact, sees, kept⟩
  · rw [if_neg (by simp [silent])]
    exact kept
  · have rendered : (callOf c settings p snapshot).rendered = some artifact := by
      rw [Call.rendered, Call.filterMap_actions sees]
      rfl
    rw [if_pos signalled, rendered]
    exact kept

/-- Behind every run the path holds what the proxy was told to load last. -/
theorem history_live (straight : p.2.tree.Straight settings.configFile)
    (apart : ∀ x ∈ xs, ∀ q ∈ settings.store.storable x, p.2.tree.Apart q.path settings.configFile) :
    p.2.tree.Holds settings.configFile
      ((lastRendered Outcome.signalled (history c settings xs p)).map Utf8.encode)
      (reached c settings xs p).2.tree := by
  refine history_induction (P := fun done q => p.2.tree.Holds settings.configFile
    ((lastRendered Outcome.signalled done).map Utf8.encode) q.2.tree) ?_ xs ?_
  · exact FileTree.holds_init p.2.tree settings.configFile
  · intro done q x hx holds
    exact call_live c straight (apart x hx) holds

theorem live_of_holds {t₀ t : FileTree} {path : String} {text : Option String}
    (holds : t₀.Holds path (text.map Utf8.encode) t) (lacks : t₀.Lacks path) :
    t.Live path text := by
  intro content
  constructor
  · intro read
    rcases holds.of_read read with written | ⟨_, shown⟩
    · exact written
    · -- nothing was written there, and nothing stood there from the beginning
      exact absurd shown (lacks content)
  · exact holds.written content

/-- **The live artifact is what the proxy was told to load last.** Behind every run, and so behind
every call whether or not it was applied, it is what the proxy was last made to load just when these
are the same text: when no signal has failed since the last reload, or none behind another artifact. -/
theorem live_reloaded_iff (straight : p.2.tree.Straight settings.configFile)
    (apart : ∀ x ∈ xs, ∀ q ∈ settings.store.storable x, p.2.tree.Apart q.path settings.configFile)
    (lacks : p.2.tree.Lacks settings.configFile) :
    (reached c settings xs p).2.tree.Live settings.configFile
        (lastRendered Outcome.signalled (history c settings xs p)) ∧
      ((reached c settings xs p).2.tree.Live settings.configFile
          (lastRendered (fun o => o.reloaded) (history c settings xs p)) ↔
        lastRendered Outcome.signalled (history c settings xs p) =
          lastRendered (fun o => o.reloaded) (history c settings xs p)) := by
  have live := live_of_holds (history_live (c := c) straight apart) lacks
  refine ⟨live, fun law => FileTree.live_unique live law, fun same => ?_⟩
  rw [← same]
  exact live

/-- A run whose second call renders another artifact and fails to have it loaded, while the third
one equals the first one in all that matters. -/
def failedSignal : Script where
  renderings := [.text "one", .text "two"]
  reloads := [none, some (.failed "nginx -s reload" "exit status: 1" "")]

def movedAndBack : List Snapshot := [
  { generation := 1, servers := [{ hostname := "a.example", port := 80 }] },
  { generation := 2, servers := [{ hostname := "a.example", port := 81 }] },
  { generation := 3, servers := [{ hostname := "a.example", port := 80 }] }]

theorem movedAndBack_live :
    (opening failedSignal).tree.Straight sampleSettings.configFile ∧
      (opening failedSignal).tree.Lacks sampleSettings.configFile ∧
      (∀ x ∈ movedAndBack, ∀ q ∈ sampleSettings.store.storable x,
        (opening failedSignal).tree.Apart q.path sampleSettings.configFile) ∧
      (reached Script.collaborators sampleSettings movedAndBack (start, opening failedSignal)).2.tree.Live
        sampleSettings.configFile (lastRendered Outcome.signalled
          (history Script.collaborators sampleSettings movedAndBack (start, opening failedSignal))) := by
  have straight : (opening failedSignal).tree.Straight sampleSettings.configFile := by decide
  have lacks := opening_lacks failedSignal sampleSettings.configFile
  have apart : ∀ x ∈ movedAndBack, ∀ q ∈ sampleSettings.store.storable x,
      (opening failedSignal).tree.Apart q.path sampleSettings.configFile := by decide
  have live := live_reloaded_iff (c := Script.collaborators) (p := (start, opening failedSignal))
    straight apart lacks
  exact ⟨straight, lacks, apart, live.1⟩

/-- **A failed signal leaves its artifact behind.** The third call of the run is applied, and the
live artifact is that of the second one, which the proxy never loaded. -/
theorem live_not_reloaded : ¬∀ (script : Script) (xs : List Snapshot),
    (∀ x ∈ xs, ∀ q ∈ sampleSettings.store.storable x,
      (opening script).tree.Apart q.path sampleSettings.configFile) →
    ((history Script.collaborators sampleSettings xs (start, opening script)).getLast?.all fun k =>
      k.outcome.kind.isApplied) = true →
    (reached Script.collaborators sampleSettings xs (start, opening script)).2.tree.Live
      sampleSettings.configFile (lastRendered (fun o => o.reloaded)
        (history Script.collaborators sampleSettings xs (start, opening script))) := by
  intro law
  have run : (((history Script.collaborators sampleSettings movedAndBack
        (start, opening failedSignal)).getLast?.all fun k => k.outcome.kind.isApplied) = true ∧
      lastRendered (fun o => o.reloaded) (history Script.collaborators sampleSettings movedAndBack
        (start, opening failedSignal)) = some "one") ∧
      (reached Script.collaborators sampleSettings movedAndBack
        (start, opening failedSignal)).2.tree.read sampleSettings.configFile
          = .ok (Utf8.encode "two") := by
    decide +kernel
  have live := law failedSignal movedAndBack (by decide) run.1.1
  have read := (live _).mp run.2
  rw [run.1.2] at read
  exact absurd read (by decide)

end Reconciler

end IngressControl
