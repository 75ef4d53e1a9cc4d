import IngressControl.Proofs.Reconciler.History

/-!
# TLS material on disk

Whenever the proxy looks, at a dry run, at a reload or behind an applied snapshot, the files of the
snapshot's default material should hold just that material. Each file is compared with what is to go
into it before it is written, so this would be easy, were the comparison made at all times. It is
left out when the material has the key of the last applied snapshot. A call that stored other
material under the same name and failed behind that does not change the last applied snapshot, and
its material stays on disk, in use, through all calls that go back to the former one.

`material_stored_iff` says that this is the only way: the file of a piece holds it just when no other
piece was stored there since. When every call that stores material is applied, that is always so
(`material_of_applied`).
-/

namespace IngressControl.Reconciler

variable {σ : Type} {c : Collaborators σ} {settings : ReconcilerSettings} {snapshot : Snapshot}
  {t₀ t t' : FileTree}

/-! ## What calls store -/

/-- The pieces that a call set out to store. -/
def Call.attempted (store : MaterialStore) (k : Call σ) : List Piece :=
  k.actions.filterMap (Session.piece? store)

/-- What was stored of the pieces attempted: the last one was not, when the call ended there. -/
def landed (kind : OutcomeKind) (attempted : List Piece) : List Piece :=
  if kind = .certificateWriteFailed ∨ kind = .dhParamWriteFailed then attempted.dropLast
  else attempted

/-- The pieces that a call stored. -/
def Call.stored (store : MaterialStore) (k : Call σ) : List Piece :=
  landed k.outcome.kind (k.attempted store)

/-- What a call came to once it had brought the material in step, or had failed to. -/
def Call.synced (c : Collaborators σ) (settings : ReconcilerSettings) (k : Call σ) : Session σ :=
  if k.before.1.isStale k.snapshot then k.before.2
  else ((k.before.2.observeCertificates k.snapshot).syncMaterial c settings.store
    k.before.1.applied.snapshot k.snapshot).1

/-- The pieces that some calls stored, the last one last. -/
def storedBy (store : MaterialStore) (calls : List (Call σ)) : List Piece :=
  calls.flatMap (Call.stored store)

theorem storedBy_snoc (store : MaterialStore) (calls : List (Call σ)) (k : Call σ) :
    storedBy store (calls ++ [k]) = storedBy store calls ++ k.stored store := by
  simp [storedBy]

/-! ## Files that are kept apart -/

/-- All pieces of some snapshots that can be stored. -/
def pieces (store : MaterialStore) (xs : List Snapshot) : List Piece := xs.flatMap store.storable

/-- The files of some pieces and the live artifact are different files, none of them on the way to
another one, and none on the way to itself. -/
structure KeptApart (t₀ : FileTree) (artifact : String) (files : List Piece) : Prop where
  fromArtifact : ∀ f ∈ files, t₀.Apart artifact f.path
  distinct : ∀ f ∈ files, ∀ g ∈ files, f.path ≠ g.path → t₀.Apart f.path g.path
  straight : ∀ f ∈ files, t₀.Straight f.path

/-- The contents that may be compared in a run: those of its pieces, and what stood in their place
from the beginning. -/
def Compared (t₀ : FileTree) (files : List Piece) (b : Bytes) : Prop :=
  ∃ f ∈ files, f.content = b ∨ t₀.Shows f.path b

/-- Each file holds what was stored there last. -/
def Filed (t₀ : FileTree) (files ds : List Piece) (t : FileTree) : Prop :=
  (∀ d ∈ ds, d ∈ files) ∧ ∀ f ∈ files, t₀.Holds f.path (lastContent ds f.path) t

namespace Filed

variable {files ds : List Piece} {p : Piece}

theorem init (t₀ : FileTree) (files : List Piece) : Filed t₀ files [] t₀ :=
  ⟨by simp, fun f _ => FileTree.holds_init t₀ f.path⟩

theorem grown (h : Filed t₀ files ds t) (made : t.Rewrites [] t') : Filed t₀ files ds t' :=
  ⟨h.1, fun f hf => (h.2 f hf).grown made⟩

theorem stored (h : Filed t₀ files ds t) {artifact : String} (apart : KeptApart t₀ artifact files)
    (free : CollisionFree (Compared t₀ files)) (hp : p ∈ files)
    (stores : MaterialStore.Stores t p t') : Filed t₀ files (ds ++ [p]) t' := by
  refine ⟨fun d hd => ?_, fun f hf => ?_⟩
  · rcases List.mem_append.mp hd with hd | hd
    · exact h.1 d hd
    · rw [List.mem_singleton.mp hd]; exact hp
  · rw [lastContent_snoc]
    by_cases same : p.path = f.path
    · rw [if_pos same, ← same]
      refine stores.holds (h.2 p hp) (apart.straight p hp) (fun c hc identity => ?_)
      refine free c p.content ?_ ⟨p, hp, Or.inl rfl⟩ identity
      -- what the store found there was stored there before, or it stood there from the beginning
      rcases hc with written | shown
      · obtain ⟨d, hd, _, hdc⟩ := mem_of_lastContent written
        exact ⟨d, h.1 d hd, Or.inl hdc⟩
      · exact ⟨p, hp, Or.inr shown⟩
    · rw [if_neg same]
      exact (h.2 f hf).elsewhere (by simpa using apart.distinct p hp f hf same) stores.rewrites

theorem deposits (h : Filed t₀ files ds t) {artifact : String}
    (apart : KeptApart t₀ artifact files) (free : CollisionFree (Compared t₀ files))
    {ps : List Piece} (hps : ∀ p ∈ ps, p ∈ files) (deposits : MaterialStore.Deposits t ps t') :
    Filed t₀ files (ds ++ ps) t' := by
  induction deposits with
  | nil => simpa using h
  | grown _ made ih => exact (ih hps).grown made
  | stored _ stores ih =>
    rw [← List.append_assoc]
    exact (ih fun p hp => hps p (by simp [hp])).stored apart free (hps _ (by simp)) stores

/-- Replacing the live artifact leaves them. -/
theorem replaced (h : Filed t₀ files ds t) {artifact : String}
    (apart : KeptApart t₀ artifact files) (wrote : t.Rewrites [artifact] t') :
    Filed t₀ files ds t' :=
  ⟨h.1, fun f hf => (h.2 f hf).elsewhere (by simpa using apart.fromArtifact f hf) wrote⟩

/-- A file holds a piece just when it was the last one stored there, once any was. -/
theorem read_iff (h : Filed t₀ files ds t) {f : Piece} (hf : ∃ d ∈ ds, d.path = f.path) :
    t.read f.path = .ok f.content ↔ lastContent ds f.path = some f.content := by
  obtain ⟨d, hd, path⟩ := hf
  obtain ⟨content, hcontent⟩ := lastContent_of_mem hd
  have holds := (h.2 d (h.1 d hd)).written content hcontent
  rw [path] at hcontent holds
  rw [hcontent, holds]
  simp

end Filed

/-! ## One reconciliation -/

/-- The trees that the proxy meets in a call: at the dry run, and when it is told to reload. -/
inductive Meets (c : Collaborators σ) (settings : ReconcilerSettings) (p : Reconciler × Session σ)
    (snapshot : Snapshot) : FileTree → Prop
  | dryRun {s₁ s₂ : Session σ} {artifact : String} (news : p.1.isStale snapshot = false)
      (sync : (p.2.observeCertificates snapshot).syncMaterial c settings.store p.1.applied.snapshot
        snapshot = (s₁, .ok ()))
      (calls : (p.1.reason snapshot).calls = true)
      (render : (s₁.record (.decideReload (p.1.reason snapshot))).renderArtifact c settings
        snapshot = (s₂, .ok artifact)) :
      Meets c settings p snapshot s₂.tree
  | reload {s₁ s₂ s₃ s₄ : Session σ} {artifact : String} (news : p.1.isStale snapshot = false)
      (sync : (p.2.observeCertificates snapshot).syncMaterial c settings.store p.1.applied.snapshot
        snapshot = (s₁, .ok ()))
      (calls : (p.1.reason snapshot).calls = true)
      (render : (s₁.record (.decideReload (p.1.reason snapshot))).renderArtifact c settings
        snapshot = (s₂, .ok artifact))
      (dryRun : s₂.dryRun c artifact = (s₃, .ok ()))
      (replace : s₃.replaceArtifact c settings.configFile artifact = (s₄, .ok ())) :
      Meets c settings p snapshot s₄.tree

/-- Whether the proxy looks at a tree in a call: it meets it, or it runs on it because the call
applied its snapshot. -/
def LooksAt (c : Collaborators σ) (settings : ReconcilerSettings) (p : Reconciler × Session σ)
    (snapshot : Snapshot) (t : FileTree) : Prop :=
  Meets c settings p snapshot t ∨
    ((callOf c settings p snapshot).outcome.kind.isApplied = true ∧
      t = (callOf c settings p snapshot).after.2.tree)

section

variable {r r' : Reconciler} {s s' s₁ s₂ s₃ : Session σ} {o : Outcome} {store : MaterialStore}

theorem prepared_rewrites {reloaded : Bool} (h : Prepared c settings r snapshot s reloaded s') :
    s.tree.Rewrites [settings.configFile] s'.tree ∧
      Session.Sees (Session.piece? store) s s' [] := by
  cases h with
  | running calls => exact ⟨FileTree.Rewrites.refl _ _, .of_same rfl⟩
  | reloaded calls load =>
    obtain ⟨s₁, course, rfl⟩ := Session.reloadAndReport_ok load
    exact ⟨course.rewrites, sees_reported rfl rfl course.stores_nothing⟩

/-- What a reconciliation is for the material: nothing at all, an attempt that failed, or one that
succeeded with at most the live artifact replaced behind it. -/
theorem course_material (h : Course c settings r s snapshot r' s' o) :
    (r.isStale snapshot = true ∧ o.kind = .staleSnapshot ∧ s' = s ∧ r'.applied = r.applied) ∨
      (∃ s₁ e, r.isStale snapshot = false ∧
        (s.observeCertificates snapshot).syncMaterial c settings.store r.applied.snapshot
          snapshot = (s₁, .error e) ∧ o.kind = e.kind ∧ s'.tree = s₁.tree ∧
        Session.Sees (Session.piece? settings.store) s₁ s' [] ∧ r'.applied = r.applied) ∨
      ∃ s₁, r.isStale snapshot = false ∧
        (s.observeCertificates snapshot).syncMaterial c settings.store r.applied.snapshot
          snapshot = (s₁, .ok ()) ∧
        (o.kind ≠ .certificateWriteFailed ∧ o.kind ≠ .dhParamWriteFailed) ∧
        s₁.tree.Rewrites [settings.configFile] s'.tree ∧
        Session.Sees (Session.piece? settings.store) s₁ s' [] ∧
        ((o.kind.isApplied = true ∧ r'.applied.snapshot = some snapshot) ∨
          (o.kind.isApplied = false ∧ r'.applied = r.applied)) := by
  -- what follows once the material is in step writes the live artifact only
  have behind : ∀ {s₁ s₂ s₃ : Session σ} {reloaded : Bool} {e : Except ControlError Unit}
      {new old : Configuration} {figures : List Action},
      figures.filterMap (Session.piece? settings.store) = [] →
      Prepared c settings r snapshot s₁ reloaded s₂ →
      (r.beforePush settings s₂).push c settings.backoff new old = (s₃, e) →
      s₁.tree.Rewrites [settings.configFile] s₃.tree ∧
        Session.Sees (Session.piece? settings.store) s₁
          { s₃ with actions := s₃.actions ++ figures } [] := by
    intro s₁ s₂ s₃ reloaded e new old figures silent prepared push
    obtain ⟨wrote, sees⟩ := prepared_rewrites prepared
    obtain ⟨pushes, tree⟩ := push_quiet (fun _ => rfl) rfl silent push
    exact ⟨tree ▸ wrote, sees.trans pushes⟩
  cases h with
  | stale old => exact Or.inl ⟨old, rfl, rfl, rfl⟩
  | @unsynced s₁ e news sync =>
    exact Or.inr (Or.inl ⟨s₁, e, news, sync, rfl, rfl, (Session.Sees.of_same rfl).record rfl, rfl⟩)
  | @unchanged _ news sync same =>
    exact Or.inr (Or.inr ⟨s', news, sync, by simp [quiet], FileTree.Rewrites.refl _ _, .of_same rfl,
      Or.inl ⟨rfl, rfl⟩⟩)
  | @unloaded s₁ s₂ e news sync calls load =>
    obtain ⟨s₃, course, rfl⟩ := Session.reloadAndReport_error load
    have other : (failed snapshot e).kind ≠ .certificateWriteFailed ∧
        (failed snapshot e).kind ≠ .dhParamWriteFailed ∧
        (failed snapshot e).kind.isApplied = false := by
      rcases course.failure with kind | kind | kind | kind <;>
        simp [failed, kind, OutcomeKind.isApplied]
    exact Or.inr (Or.inr ⟨s₁, news, sync, ⟨other.1, other.2.1⟩, course.rewrites,
      sees_reported rfl rfl course.stores_nothing, Or.inr ⟨other.2.2, rfl⟩⟩)
  | @pushed s₁ s₂ s₃ reloaded news sync differs prepared push =>
    have silent : (r.pushFigures snapshot).filterMap (Session.piece? settings.store) = [] := rfl
    obtain ⟨wrote, sees⟩ := behind silent prepared push
    exact Or.inr (Or.inr ⟨s₁, news, sync, by simp [taken], wrote, sees,
      Or.inl ⟨rfl, rfl⟩⟩)
  | @unpushed s₁ s₂ s₃ reloaded e news sync differs prepared push =>
    have silent : (r.pushFigures snapshot ++ [pushWarning e]).filterMap
        (Session.piece? settings.store) = [] := rfl
    obtain ⟨wrote, sees⟩ := behind silent prepared push
    exact Or.inr (Or.inr ⟨s₁, news, sync, by simp [untaken, failed, Failure.kind], wrote, sees,
      Or.inl ⟨rfl, rfl⟩⟩)

end

/-! ## Whole runs -/

/-- What all runs keep: the files hold what was stored last, and each piece of the last applied
snapshot had something stored at its path. -/
structure Kept (settings : ReconcilerSettings) (t₀ : FileTree) (files ds : List Piece)
    (p : Reconciler × Session σ) : Prop where
  filed : Filed t₀ files ds p.2.tree
  applied : ∀ a, p.1.applied.snapshot = some a → ∀ f ∈ settings.store.material a,
    ∃ d ∈ ds, d.path = f.path

variable {files ds : List Piece} {p : Reconciler × Session σ} {s₁ : Session σ}

/-- The pieces that a snapshot calls to be stored, in the place of the last applied one. -/
def due (store : MaterialStore) (r : Reconciler) (snapshot : Snapshot) : List Piece :=
  (Session.outdated r.applied.snapshot snapshot).filterMap (Session.piece? store)

theorem observe_stores_nothing (s : Session σ) (snapshot : Snapshot) (store : MaterialStore) :
    Session.Sees (Session.piece? store) s (s.observeCertificates snapshot) [] :=
  ((Session.Sees.of_same rfl).record rfl).record rfl

theorem Kept.synced (h : Kept settings t₀ files ds p)
    (storable : ∀ f ∈ settings.store.storable snapshot, f ∈ files)
    (apart : KeptApart t₀ settings.configFile files) (free : CollisionFree (Compared t₀ files))
    (sync : (p.2.observeCertificates snapshot).syncMaterial c settings.store p.1.applied.snapshot
      snapshot = (s₁, .ok ())) :
    Filed t₀ files (ds ++ due settings.store p.1 snapshot) s₁.tree ∧
      ∀ f ∈ settings.store.material snapshot, ∃ d ∈ ds ++ due settings.store p.1 snapshot,
        d.path = f.path := by
  have stocked := Session.syncMaterial_ok sync
  refine ⟨?_, fun f hf => ?_⟩
  · exact h.filed.deposits apart free (fun d hd => storable d (stocked.storable d hd))
      stocked.deposits
  · rcases Session.material_outdated hf with outdated | ⟨a, ha, g, hg, path, _⟩
    · exact ⟨f, List.mem_append_right _ outdated, rfl⟩
    · obtain ⟨d, hd, hdg⟩ := h.applied a ha g hg
      exact ⟨d, List.mem_append_left _ hd, hdg.trans path⟩

/-- A call whose material came in step stored all that was due. -/
theorem stored_eq_due (news : p.1.isStale snapshot = false)
    (sync : (p.2.observeCertificates snapshot).syncMaterial c settings.store p.1.applied.snapshot
      snapshot = (s₁, .ok ())) :
    (callOf c settings p snapshot).stored settings.store = due settings.store p.1 snapshot := by
  rcases course_material (callOf_course c settings p snapshot) with
    ⟨old, _⟩ | ⟨_, _, _, sync', _⟩ | ⟨s₁', _, sync', ⟨certificate, dhParam⟩, _, sees, _⟩
  · rw [news] at old; simp at old
  · rw [sync] at sync'; simp at sync'
  · rw [sync] at sync'
    obtain rfl : s₁ = s₁' := by simpa using sync'
    have attempted : (callOf c settings p snapshot).attempted settings.store =
        due settings.store p.1 snapshot := by
      have stocked := Session.syncMaterial_ok sync
      have acts := Session.Sees.trans (observe_stores_nothing p.2 snapshot settings.store)
        ⟨_, stocked.actions, rfl⟩
      have all := Call.filterMap_actions (k := callOf c settings p snapshot) (acts.trans sees)
      rw [Call.attempted, all, List.append_nil, List.nil_append, due]
    rw [Call.stored, landed, if_neg (by simp [certificate, dhParam]), attempted]

/-- When the material cannot be brought in step, all is stored but the piece that failed. -/
theorem stored_of_unsynced {e : Failure}
    (sync : (p.2.observeCertificates snapshot).syncMaterial c settings.store p.1.applied.snapshot
      snapshot = (s₁, .error e))
    (kind : (callOf c settings p snapshot).outcome.kind = e.kind)
    (sees : Session.Sees (Session.piece? settings.store) s₁ (callOf c settings p snapshot).after.2
      []) :
    MaterialStore.Deposits p.2.tree ((callOf c settings p snapshot).stored settings.store) s₁.tree ∧
      ∀ d ∈ (callOf c settings p snapshot).stored settings.store,
        d ∈ settings.store.storable snapshot := by
  obtain ⟨failed, stored, a, s₂, first, stocked, made, acts⟩ := Session.syncMaterial_error sync
  obtain ⟨piece, _, hpiece⟩ := Session.piece?_outdated settings.store
    (first.subset (by simp : a ∈ stored ++ [a]))
  have attempted : (callOf c settings p snapshot).attempted settings.store =
      stored.filterMap (Session.piece? settings.store) ++ [piece] := by
    have act : Session.Sees (Session.piece? settings.store) s₂ s₁ [piece] :=
      ⟨[a], acts, by simp [hpiece]⟩
    have all := (((observe_stores_nothing p.2 snapshot settings.store).trans
      ⟨stored, stocked.actions, rfl⟩).trans act).trans sees
    rw [Call.attempted, Call.filterMap_actions (k := callOf c settings p snapshot) all,
      List.append_nil, List.nil_append]
  rw [Call.stored, landed, kind, if_pos failed, attempted, List.dropLast_concat]
  exact ⟨stocked.deposits.grown made, stocked.storable⟩

/-- **What a call does to the files**: the pieces that it stored are put down, each of them one that
can be stored, and then at most the live artifact is replaced. -/
theorem callOf_deposits (c : Collaborators σ) (settings : ReconcilerSettings)
    (p : Reconciler × Session σ) (snapshot : Snapshot) :
    MaterialStore.Deposits p.2.tree ((callOf c settings p snapshot).stored settings.store)
        ((callOf c settings p snapshot).synced c settings).tree ∧
      (∀ d ∈ (callOf c settings p snapshot).stored settings.store,
        d ∈ settings.store.storable snapshot) ∧
      ((callOf c settings p snapshot).synced c settings).tree.Rewrites [settings.configFile]
        (callOf c settings p snapshot).after.2.tree := by
  rw [Call.synced, callOf_before, callOf_snapshot]
  rcases course_material (callOf_course c settings p snapshot) with
    ⟨old, kind, session, _⟩ | ⟨s₁, e, news, sync, kind, tree, sees, _⟩ |
      ⟨s₁, news, sync, _, wrote, _⟩
  · -- a stale snapshot stores nothing
    have nothing : (callOf c settings p snapshot).attempted settings.store = [] :=
      Call.filterMap_actions (.of_same (by rw [session]; rfl))
    have stored : (callOf c settings p snapshot).stored settings.store = [] := by
      rw [Call.stored, nothing, landed]
      simp
    rw [if_pos old, stored, session]
    exact ⟨.nil, by simp, FileTree.Rewrites.refl _ _⟩
  · obtain ⟨deposits, storable⟩ := stored_of_unsynced sync kind sees
    rw [if_neg (by simp [news]), sync, tree]
    exact ⟨deposits, storable, FileTree.Rewrites.refl _ _⟩
  · have stocked := Session.syncMaterial_ok sync
    rw [if_neg (by simp [news]), sync, stored_eq_due news sync]
    exact ⟨stocked.deposits, stocked.storable, wrote⟩

/-- **Every call keeps it.** -/
theorem Kept.call (h : Kept settings t₀ files ds p)
    (storable : ∀ f ∈ settings.store.storable snapshot, f ∈ files)
    (apart : KeptApart t₀ settings.configFile files) (free : CollisionFree (Compared t₀ files)) :
    Kept settings t₀ files (ds ++ (callOf c settings p snapshot).stored settings.store)
      (callOf c settings p snapshot).after := by
  obtain ⟨deposits, taken, wrote⟩ := callOf_deposits c settings p snapshot
  refine ⟨(h.filed.deposits apart free (fun d hd => storable d (taken d hd)) deposits).replaced
    apart wrote, ?_⟩
  have earlier : (callOf c settings p snapshot).after.1.applied = p.1.applied →
      ∀ a, (callOf c settings p snapshot).after.1.applied.snapshot = some a →
      ∀ f ∈ settings.store.material a,
        ∃ d ∈ ds ++ (callOf c settings p snapshot).stored settings.store, d.path = f.path := by
    intro same a ha f hf
    obtain ⟨d, hd, path⟩ := h.applied a (same ▸ ha) f hf
    exact ⟨d, List.mem_append_left _ hd, path⟩
  rcases course_material (callOf_course c settings p snapshot) with
    ⟨_, _, _, same⟩ | ⟨_, _, _, _, _, _, _, same⟩ | ⟨s₁, news, sync, _, _, _, applied⟩
  · exact earlier same
  · exact earlier same
  · -- all that was due is stored now
    rcases applied with ⟨_, new⟩ | ⟨_, same⟩
    · intro a ha
      rw [new] at ha
      cases ha
      rw [stored_eq_due news sync]
      exact (h.synced storable apart free sync).2
    · exact earlier same

theorem kept_start (settings : ReconcilerSettings) (s₀ : Session σ) (files : List Piece) :
    Kept settings s₀.tree files [] (start, s₀) :=
  ⟨.init s₀.tree files, by simp [start]⟩

/-- **Every run keeps it.** -/
theorem kept_reached {s₀ : Session σ} {files : List Piece}
    (apart : KeptApart s₀.tree settings.configFile files)
    (free : CollisionFree (Compared s₀.tree files)) (xs : List Snapshot)
    (storable : ∀ x ∈ xs, ∀ f ∈ settings.store.storable x, f ∈ files) :
    Kept settings s₀.tree files (storedBy settings.store (history c settings xs (start, s₀)))
      (reached c settings xs (start, s₀)) := by
  refine history_induction (P := fun done q =>
    Kept settings s₀.tree files (storedBy settings.store done) q) ?_ xs ?_
  · exact kept_start settings s₀ files
  · intro done q x hx kept
    rw [storedBy_snoc]
    exact kept.call (storable x hx) apart free

/-- The trees that the proxy looks at have the material in step, and the live artifact as it may
be. -/
theorem looksAt_synced {t : FileTree} (looks : LooksAt c settings p snapshot t) :
    p.1.isStale snapshot = false ∧ ∃ s₁, (p.2.observeCertificates snapshot).syncMaterial c
        settings.store p.1.applied.snapshot snapshot = (s₁, .ok ()) ∧
      s₁.tree.Rewrites [settings.configFile] t := by
  rcases looks with meets | ⟨applied, rfl⟩
  · cases meets with
    | dryRun news sync calls render =>
      refine ⟨news, _, sync, ?_⟩
      rw [(Session.renderArtifact_effect render).1]
      exact FileTree.Rewrites.refl _ _
    | reload news sync calls render dryRun replace =>
      refine ⟨news, _, sync, ?_⟩
      have wrote := (Session.replaceArtifact_ok replace).1
      rwa [(Session.dryRun_effect dryRun).1, (Session.renderArtifact_effect render).1] at wrote
  · rcases course_material (callOf_course c settings p snapshot) with
      ⟨_, kind, _⟩ | ⟨_, e, _, sync, kind, _⟩ | ⟨s₁, news, sync, _, wrote, _⟩
    · rw [kind] at applied; simp [OutcomeKind.isApplied] at applied
    · rw [kind] at applied
      rcases (Session.syncMaterial_error sync).1 with kind | kind <;>
        simp [kind, OutcomeKind.isApplied] at applied
    · exact ⟨news, s₁, sync, wrote⟩

/-- What stands on the trees that the proxy looks at, behind any run. -/
theorem looksAt_filed {s₀ : Session σ} {xs : List Snapshot} {x : Snapshot} {t : FileTree}
    (apart : KeptApart s₀.tree settings.configFile (pieces settings.store (xs ++ [x])))
    (free : CollisionFree (Compared s₀.tree (pieces settings.store (xs ++ [x]))))
    (looks : LooksAt c settings (reached c settings xs (start, s₀)) x t) :
    Filed s₀.tree (pieces settings.store (xs ++ [x]))
        (storedBy settings.store (history c settings (xs ++ [x]) (start, s₀))) t ∧
      ∀ f ∈ settings.store.material x,
        ∃ d ∈ storedBy settings.store (history c settings (xs ++ [x]) (start, s₀)),
          d.path = f.path := by
  have storable : ∀ y ∈ xs ++ [x], ∀ g ∈ settings.store.storable y,
      g ∈ pieces settings.store (xs ++ [x]) :=
    fun y hy g hg => List.mem_flatMap.mpr ⟨y, hy, hg⟩
  have kept := kept_reached (c := c) apart free xs fun y hy => storable y (by simp [hy])
  obtain ⟨news, s₁, sync, wrote⟩ := looksAt_synced looks
  obtain ⟨filed, present⟩ := kept.synced (storable x (by simp)) apart free sync
  have calls : history c settings (xs ++ [x]) (start, s₀) = history c settings xs (start, s₀) ++
      [callOf c settings (reached c settings xs (start, s₀)) x] := history_append xs [x] _
  rw [calls, storedBy_snoc, stored_eq_due news sync]
  exact ⟨filed.replaced apart wrote, present⟩

/-- **What the proxy finds in the place of its material.** At every dry run, at every reload and
behind every applied snapshot, in any run: a file of the snapshot's default material holds it just
when nothing else was stored there since. -/
theorem material_stored_iff {s₀ : Session σ} {xs : List Snapshot} {x : Snapshot} {t : FileTree}
    (apart : KeptApart s₀.tree settings.configFile (pieces settings.store (xs ++ [x])))
    (free : CollisionFree (Compared s₀.tree (pieces settings.store (xs ++ [x]))))
    (looks : LooksAt c settings (reached c settings xs (start, s₀)) x t) :
    ∀ f ∈ settings.store.material x, t.read f.path = .ok f.content ↔
      lastContent (storedBy settings.store (history c settings (xs ++ [x]) (start, s₀))) f.path =
        some f.content := by
  obtain ⟨filed, present⟩ := looksAt_filed apart free looks
  exact fun f hf => filed.read_iff (present f hf)

/-- A snapshot with one certificate and nothing else. -/
def certified (generation : Int64) (pem : String) : Snapshot where
  generation := generation
  defaultCertificate := some { name := "site", pem }

/-- The second dry run refuses its artifact. -/
def refusal : Script where
  renderings := [.text "one", .text "two"]
  dryRuns := [none, some (.failed "nginx -t" "exit status: 1" "")]

/-- One certificate, and another one under its name. Behind them the first one is handed in again. -/
def oneAndOther : List Snapshot := [certified 1 "A", certified 2 "B"]

theorem oneAndOther_apart : KeptApart (opening refusal).tree sampleSettings.configFile
    (pieces sampleSettings.store (oneAndOther ++ [certified 3 "A"])) :=
  ⟨by decide, by decide, by decide⟩

theorem oneAndOther_free : CollisionFree (Compared (opening refusal).tree
    (pieces sampleSettings.store (oneAndOther ++ [certified 3 "A"]))) := by
  have contents : ∀ f ∈ pieces sampleSettings.store (oneAndOther ++ [certified 3 "A"]),
      f.content = Utf8.encode "A" ∨ f.content = Utf8.encode "B" := by decide
  have compared : ∀ b, Compared (opening refusal).tree
      (pieces sampleSettings.store (oneAndOther ++ [certified 3 "A"])) b →
        b = Utf8.encode "A" ∨ b = Utf8.encode "B" := by
    rintro b ⟨f, hf, content | shown⟩
    · rw [← content]; exact contents f hf
    · exact absurd shown (opening_lacks refusal f.path b)
  refine collisionFree_of_nodup (fun b hb => ?_) (by decide +kernel :
    ([Utf8.encode "A", Utf8.encode "B"].map contentIdentity).Nodup)
  rcases compared b hb with rfl | rfl <;> simp

/-- What stands before the third call. -/
def abandoned : Reconciler × Session Script :=
  reached Script.collaborators sampleSettings oneAndOther (start, opening refusal)

/-- The third call is applied, with the second certificate on disk. -/
theorem abandoned_run :
    (callOf Script.collaborators sampleSettings abandoned
        (certified 3 "A")).outcome.kind.isApplied = true ∧
      (callOf Script.collaborators sampleSettings abandoned
        (certified 3 "A")).after.2.tree.read "/ssl/site.pem" = .ok (Utf8.encode "B") := by
  decide +kernel

theorem abandoned_looksAt : LooksAt Script.collaborators sampleSettings abandoned (certified 3 "A")
    (callOf Script.collaborators sampleSettings abandoned (certified 3 "A")).after.2.tree :=
  Or.inr ⟨abandoned_run.1, rfl⟩

/-- The proxy runs on the tree behind the third call, and the law says what it finds there. -/
theorem abandoned_material_iff :
    LooksAt Script.collaborators sampleSettings abandoned (certified 3 "A")
        (callOf Script.collaborators sampleSettings abandoned (certified 3 "A")).after.2.tree ∧
      ∀ f ∈ sampleSettings.store.material (certified 3 "A"),
        (callOf Script.collaborators sampleSettings abandoned
            (certified 3 "A")).after.2.tree.read f.path = .ok f.content ↔
          lastContent (storedBy sampleSettings.store (history Script.collaborators sampleSettings
            (oneAndOther ++ [certified 3 "A"]) (start, opening refusal))) f.path =
              some f.content :=
  ⟨abandoned_looksAt, material_stored_iff oneAndOther_apart oneAndOther_free abandoned_looksAt⟩

/-- **Abandoned material stays in use.** The second certificate was stored before the dry run refused
it, and is served behind the third call, which was applied and goes back to the first one. -/
theorem material_not_kept : ¬∀ (script : Script) (xs : List Snapshot) (x : Snapshot) (t : FileTree),
    KeptApart (opening script).tree sampleSettings.configFile
      (pieces sampleSettings.store (xs ++ [x])) →
    CollisionFree (Compared (opening script).tree (pieces sampleSettings.store (xs ++ [x]))) →
    LooksAt Script.collaborators sampleSettings
      (reached Script.collaborators sampleSettings xs (start, opening script)) x t →
    ∀ f ∈ sampleSettings.store.material x, t.read f.path = .ok f.content := by
  intro law
  have first := law refusal oneAndOther (certified 3 "A") _ oneAndOther_apart oneAndOther_free
    abandoned_looksAt ⟨"/ssl/site.pem", Utf8.encode "A"⟩ (by decide)
  rw [abandoned_run.2] at first
  exact absurd first (by decide)

/-! ## Runs that abandon nothing -/

/-- All material of some snapshots, whether or not it can be stored. -/
def allMaterial (store : MaterialStore) (xs : List Snapshot) : List Piece := xs.flatMap store.material

/-- A certificate is never kept in the file of Diffie-Hellman parameters. -/
def OwnFiles (store : MaterialStore) (xs : List Snapshot) : Prop :=
  ∀ x ∈ xs, ∀ certificate ∈ x.defaultCertificate, ∀ parameters ∈ x.dhParam,
    store.certificatePath certificate.name ≠ store.dhParamPath parameters.name

/-- What was stored last in the files of the last applied snapshot is its material. -/
def UpToDate (store : MaterialStore) (xs : List Snapshot) (ds : List Piece) (r : Reconciler) : Prop :=
  ∀ a, r.applied.snapshot = some a →
    a ∈ xs ∧ ∀ f ∈ store.material a, lastContent ds f.path = some f.content

variable {xs : List Snapshot} {store : MaterialStore} {r : Reconciler}

theorem material_own (own : OwnFiles store xs) (hx : snapshot ∈ xs) {f g : Piece}
    (hf : f ∈ store.material snapshot) (hg : g ∈ store.material snapshot) (path : f.path = g.path) :
    f = g := by
  rw [MaterialStore.material, List.mem_append] at hf hg
  have differ : ∀ x y, snapshot.defaultCertificate = some x → snapshot.dhParam = some y →
      store.certificatePath x.name ≠ store.dhParamPath y.name :=
    fun x y h h' => own snapshot hx x h y h'
  simp only [Option.mem_toList, Option.map_eq_some_iff] at hf hg
  rcases hf with ⟨x, hx', rfl⟩ | ⟨x, hx', rfl⟩ <;> rcases hg with ⟨y, hy, rfl⟩ | ⟨y, hy, rfl⟩
  · rw [hx'] at hy; cases hy; rfl
  · -- a certificate and parameters are never at one path
    exact absurd path (differ x y hx' hy)
  · exact absurd path.symm (differ y x hy hx')
  · rw [hx'] at hy; cases hy; rfl

theorem due_subset (store : MaterialStore) (r : Reconciler) (snapshot : Snapshot) :
    due store r snapshot ⊆ store.material snapshot := by
  intro p hp
  obtain ⟨a, ha, hap⟩ := List.mem_filterMap.mp hp
  obtain ⟨q, hq, haq⟩ := Session.piece?_outdated store ha
  rw [haq] at hap
  cases hap
  exact hq

/-- Once all that is due was stored, the material of a snapshot is the last thing stored in its
files. -/
theorem UpToDate.due (h : UpToDate store xs ds r) (own : OwnFiles store xs)
    (free : CollisionFree (Compared t₀ (allMaterial store xs))) (hx : snapshot ∈ xs) :
    ∀ f ∈ store.material snapshot,
      lastContent (ds ++ Reconciler.due store r snapshot) f.path = some f.content := by
  intro f hf
  have only : ∀ d ∈ Reconciler.due store r snapshot, d.path = f.path → d = f :=
    fun d hd path => material_own own hx (due_subset store r snapshot hd) hf path
  by_cases stored : f ∈ Reconciler.due store r snapshot
  · exact lastContent_only stored only
  · have elsewhere : ∀ d ∈ Reconciler.due store r snapshot, d.path ≠ f.path :=
      fun d hd path => stored (only d hd path ▸ hd)
    rw [lastContent_elsewhere elsewhere]
    rcases Session.material_outdated hf with outdated | ⟨a, ha, g, hg, path, identity⟩
    · exact absurd outdated stored
    · -- the last applied snapshot has the same content under the same path
      obtain ⟨hax, last⟩ := h a ha
      have same : g.content = f.content := free g.content f.content
        ⟨g, List.mem_flatMap.mpr ⟨a, hax, hg⟩, Or.inl rfl⟩
        ⟨f, List.mem_flatMap.mpr ⟨snapshot, hx, hf⟩, Or.inl rfl⟩ identity
      rw [← path, last g hg, same]

/-- A call that is applied, or that stored nothing, leaves it so. -/
theorem UpToDate.call (h : UpToDate settings.store xs ds p.1) (own : OwnFiles settings.store xs)
    (free : CollisionFree (Compared t₀ (allMaterial settings.store xs))) (hx : snapshot ∈ xs)
    (nothing : (callOf c settings p snapshot).outcome.kind.isApplied = true ∨
      (callOf c settings p snapshot).stored settings.store = []) :
    UpToDate settings.store xs (ds ++ (callOf c settings p snapshot).stored settings.store)
      (callOf c settings p snapshot).after.1 := by
  have same : (callOf c settings p snapshot).outcome.kind.isApplied = false →
      (callOf c settings p snapshot).after.1.applied = p.1.applied →
      UpToDate settings.store xs (ds ++ (callOf c settings p snapshot).stored settings.store)
        (callOf c settings p snapshot).after.1 := by
    intro notApplied same a ha
    rcases nothing with applied | stored
    · rw [notApplied] at applied; simp at applied
    · rw [stored, List.append_nil]
      exact h a (same ▸ ha)
  rcases course_material (callOf_course c settings p snapshot) with
    ⟨_, kind, _, kept⟩ | ⟨s₁, e, _, sync, kind, _, _, kept⟩ | ⟨s₁, news, sync, _, _, _, applied⟩
  · exact same (by rw [kind]; rfl) kept
  · refine same ?_ kept
    rcases (Session.syncMaterial_error sync).1 with cause | cause <;>
      simp [kind, cause, OutcomeKind.isApplied]
  · rcases applied with ⟨_, new⟩ | ⟨notApplied, kept⟩
    · intro a ha
      rw [new] at ha
      cases ha
      rw [stored_eq_due news sync]
      exact ⟨hx, h.due own free hx⟩
    · exact same notApplied kept

/-- **The law holds in every run that abandons no material**: when each call before this one was
applied or stored nothing, the proxy finds the snapshot's material wherever it looks. -/
theorem material_of_applied {s₀ : Session σ} {xs : List Snapshot} {x : Snapshot} {t : FileTree}
    (apart : KeptApart s₀.tree settings.configFile (pieces settings.store (xs ++ [x])))
    (free : CollisionFree (Compared s₀.tree (allMaterial settings.store (xs ++ [x]))))
    (own : OwnFiles settings.store (xs ++ [x]))
    (nothing : ∀ k ∈ history c settings xs (start, s₀),
      k.outcome.kind.isApplied = true ∨ k.stored settings.store = [])
    (looks : LooksAt c settings (reached c settings xs (start, s₀)) x t) :
    ∀ f ∈ settings.store.material x, t.read f.path = .ok f.content := by
  have fewer : CollisionFree (Compared s₀.tree (pieces settings.store (xs ++ [x]))) := by
    have sub : ∀ b, Compared s₀.tree (pieces settings.store (xs ++ [x])) b →
        Compared s₀.tree (allMaterial settings.store (xs ++ [x])) b := by
      rintro b ⟨f, hf, hb⟩
      obtain ⟨y, hy, hfy⟩ := List.mem_flatMap.mp hf
      exact ⟨f, List.mem_flatMap.mpr ⟨y, hy, settings.store.storable_subset y hfy⟩, hb⟩
    exact fun a b ha hb => free a b (sub a ha) (sub b hb)
  have upToDate : (∀ k ∈ history c settings xs (start, s₀),
        k.outcome.kind.isApplied = true ∨ k.stored settings.store = []) →
      UpToDate settings.store (xs ++ [x])
        (storedBy settings.store (history c settings xs (start, s₀)))
        (reached c settings xs (start, s₀)).1 := by
    refine history_induction (P := fun done q => (∀ k ∈ done, k.outcome.kind.isApplied = true ∨
      k.stored settings.store = []) → UpToDate settings.store (xs ++ [x])
        (storedBy settings.store done) q.1) ?_ xs ?_
    · intro _ a ha
      simp [start] at ha
    · intro done q y hy ih calls
      rw [storedBy_snoc]
      exact (ih fun k hk => calls k (by simp [hk])).call own free (by simp [hy])
        (calls _ (by simp))
  obtain ⟨filed, present⟩ := looksAt_filed apart fewer looks
  obtain ⟨news, s₁, sync, _⟩ := looksAt_synced looks
  intro f hf
  rw [filed.read_iff (present f hf), history_append, storedBy, List.flatMap_append]
  have last := (upToDate nothing).due own free (by simp) f hf
  have one : (history c settings [x] (reached c settings xs (start, s₀))).flatMap
      (Call.stored settings.store) =
        due settings.store (reached c settings xs (start, s₀)).1 x := by
    rw [← stored_eq_due news sync]
    simp [history]
  rw [one]
  exact last

end IngressControl.Reconciler
