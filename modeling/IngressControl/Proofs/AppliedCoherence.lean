import IngressControl.Proofs.Coherence
import IngressControl.Proofs.FailedPush
import IngressControl.Proofs.StaticLayer

/-!
# Whether the last applied snapshot can be rendered

A snapshot is looked through for faults only when an artifact is made of it, so when a reload is called
for. One that can be applied to the running proxy is applied as it is, even if no artifact could be
made of it; servers that share a place, hostnames of white space and locations that lead nowhere all
pass the check for a reload. Such a snapshot is in the way later: a reload that some other change calls
for fails to render what was applied before.

A call that has nothing to do changes neither servers nor backends. So the last applied snapshot is
coherent just when the last push came behind a reload or brought a coherent snapshot itself
(`applied_coherent_iff`). That is always so when all changes without a reload keep the routes
(`applied_coherent`).
-/

namespace IngressControl

variable {σ : Type}

/-- Collaborators whose renderer is that of artifacts; all else is done by others. -/
def Collaborators.overArtifacts (others : Collaborators σ) : Collaborators σ :=
  { others with render := fun w snapshot context => (Artifact.render snapshot context, w) }

/-- The last applied snapshot, if there is one, is coherent. -/
def Applied.Coherent (a : Applied) : Prop := ∀ s, a.snapshot = some s → s.Coherent

namespace Reconciler

variable {others : Collaborators σ} {settings : ReconcilerSettings} {snapshot : Snapshot}

/-! ## One reconciliation -/

section

variable {r r' : Reconciler} {s s' s₁ s₂ : Session σ} {o : Outcome}

theorem renderArtifact_result {e : Except RenderError String}
    (h : s.renderArtifact others.overArtifacts settings snapshot = (s', e)) :
    Artifact.render snapshot (settings.context snapshot) = e := by
  unfold Session.renderArtifact at h
  cases h
  rfl

/-- A reload gets beyond its first stage with a coherent snapshot, and stops there without one. -/
theorem loading_coherent {e : Except Failure Unit}
    (h : Session.Loading others.overArtifacts settings snapshot s s' e) :
    (e = .ok () → snapshot.Coherent) ∧
      ∀ f, e = .error f → f.kind = .renderFailed → ¬snapshot.Coherent := by
  cases h with
  | unrendered render =>
    exact ⟨by simp, fun _ _ _ => Artifact.not_coherent_of_render (renderArtifact_result render)⟩
  | refused render dryRun => exact ⟨by simp, by rintro f ⟨⟩; simp [Failure.kind]⟩
  | unwritten render dryRun replace => exact ⟨by simp, by rintro f ⟨⟩; simp [Failure.kind]⟩
  | unsignalled render dryRun replace signal =>
    exact ⟨by simp, by rintro f ⟨⟩; simp [Failure.kind]⟩
  | loaded render dryRun replace signal =>
    exact ⟨fun _ => Artifact.coherent_of_render (renderArtifact_result render), by simp⟩

theorem prepared_coherent (h : Prepared others.overArtifacts settings r snapshot s true s') :
    snapshot.Coherent := by
  cases h with
  | reloaded calls load =>
    obtain ⟨s₁, course, rfl⟩ := Session.reloadAndReport_ok load
    exact (loading_coherent course).1 rfl

/-- What the outcome of a call tells about its snapshot. -/
theorem course_coherent (h : Course others.overArtifacts settings r s snapshot r' s' o) :
    (o.reloaded = true → snapshot.Coherent) ∧ (o.kind = .renderFailed → ¬snapshot.Coherent) := by
  cases h with
  | stale old => simp [quiet]
  | unsynced news sync =>
    refine ⟨by simp [failed], fun rendering => ?_⟩
    rcases (Session.syncMaterial_error sync).1 with kind | kind <;>
      simp [failed, kind] at rendering
  | unchanged news sync same => simp [quiet]
  | unloaded news sync calls load =>
    obtain ⟨s₁, course, rfl⟩ := Session.reloadAndReport_error load
    exact ⟨by simp [failed], (loading_coherent course).2 _ rfl⟩
  | pushed news sync differs prepared push =>
    refine ⟨fun reloaded => ?_, by simp [taken]⟩
    obtain rfl : _ = true := reloaded
    exact prepared_coherent prepared
  | unpushed news sync differs prepared push =>
    refine ⟨fun reloaded => ?_, by simp [untaken, failed, Failure.kind]⟩
    obtain rfl : _ = true := reloaded
    exact prepared_coherent prepared

end

/-! ## Whole runs -/

variable {calls : List (Call σ)} {k : Call σ} {xs : List Snapshot} {s₀ : Session σ}

/-- The last push came behind a reload, or brought a coherent snapshot. -/
def CoherentlyPushed (calls : List (Call σ)) : Prop :=
  ∀ k, lastPush calls = some k → k.outcome.reloaded = true ∨ k.snapshot.Coherent

/-- Without a collision a call that has nothing to do brings the servers and backends of the last
applied snapshot, and none at all where there is no such snapshot. -/
theorem coherent_iff_of_unchanged {handed : List Configuration} {r : Reconciler}
    (distinguished : Distinguished handed)
    (known : r.applied.configuration ∈ Configuration.empty :: handed)
    (new : snapshot.structural ∈ handed) (unchanged : r.isUnchanged snapshot = true) :
    snapshot.Coherent ↔ r.applied.Coherent := by
  have same := configuration_of_unchanged distinguished known new unchanged
  cases applied : r.applied.snapshot with
  | none =>
    rw [Applied.configuration, applied] at same
    have nothing : Snapshot.Coherent {} := by constructor <;> simp
    have keeps : Snapshot.KeepsRoutes {} snapshot := .of_structural same.symm
    simp [Applied.Coherent, applied, keeps.coherent nothing]
  | some last =>
    rw [Applied.configuration, applied] at same
    have there : last.KeepsRoutes snapshot := .of_structural same.symm
    have back : snapshot.KeepsRoutes last := .of_structural same
    simp only [Applied.Coherent, applied, Option.some.injEq, forall_eq']
    exact ⟨back.coherent, there.coherent⟩

theorem coherent_step {handed : List Configuration} {r : Reconciler}
    (told : r.applied.Coherent ↔ CoherentlyPushed calls)
    (distinguished : Distinguished handed)
    (known : r.applied.configuration ∈ Configuration.empty :: handed)
    (new : k.snapshot.structural ∈ handed)
    (reloaded : k.outcome.reloaded = true → k.snapshot.Coherent)
    (step : PushStep r k.snapshot k.attempts k.after.1.applied k.outcome.kind) :
    k.after.1.applied.Coherent ↔ CoherentlyPushed (calls ++ [k]) := by
  have quiet : k.attempts = [] → (CoherentlyPushed (calls ++ [k]) ↔ CoherentlyPushed calls) := by
    intro none
    rw [CoherentlyPushed, CoherentlyPushed, lastPush_snoc, if_neg (by simp [none])]
  -- behind a push the snapshot is the last applied one, and this is the last push
  have pushed : k.attempts ≠ [] → (CoherentlyPushed (calls ++ [k]) ↔ k.snapshot.Coherent) := by
    intro some
    rw [CoherentlyPushed, lastPush_snoc, if_pos some]
    simpa using reloaded
  generalize hattempts : k.attempts = attempts at step
  generalize k.outcome.kind = kind at step
  generalize k.after.1.applied = applied at step
  cases step with
  | stopped notApplied => rw [quiet hattempts, told]
  | unchanged equal =>
    rw [quiet hattempts, ← told, ← coherent_iff_of_unchanged distinguished known new equal]
    simp [Applied.Coherent]
  | taken differs pushes =>
    rw [pushed (by rw [hattempts]; exact pushes.once)]
    simp [Applied.Coherent]
  | untaken differs pushes =>
    rw [pushed (by rw [hattempts]; exact pushes.once)]
    simp [Applied.Coherent]

theorem coherent_reached (others : Collaborators σ) (settings : ReconcilerSettings)
    (s₀ : Session σ) {handed : List Configuration} (distinguished : Distinguished handed)
    (new : ∀ x ∈ xs, x.structural ∈ handed) :
    (reached others.overArtifacts settings xs (start, s₀)).1.applied.Coherent ↔
      CoherentlyPushed (history others.overArtifacts settings xs (start, s₀)) := by
  suffices Remembered handed (history others.overArtifacts settings xs (start, s₀))
      (reached others.overArtifacts settings xs (start, s₀)).1.applied ∧
      ((reached others.overArtifacts settings xs (start, s₀)).1.applied.Coherent ↔
        CoherentlyPushed (history others.overArtifacts settings xs (start, s₀))) from this.2
  refine history_induction (P := fun done q => Remembered handed done q.1.applied ∧
    (q.1.applied.Coherent ↔ CoherentlyPushed done)) ?_ xs ?_
  · have none : ∀ x ∈ ([] : List Snapshot), x.structural ∈ handed := by simp
    refine ⟨remembered_reached others.overArtifacts settings s₀ none, ?_⟩
    simp [Applied.Coherent, CoherentlyPushed, start, lastPush]
  · intro done q x hx h
    have step := callOf_attempts others.overArtifacts settings q x
    have told := course_coherent (callOf_course others.overArtifacts settings q x)
    exact ⟨h.1.step (k := callOf others.overArtifacts settings q x) (new x hx) step,
      coherent_step (k := callOf others.overArtifacts settings q x) h.2 distinguished h.1.known
        (new x hx) told.1 step⟩

/-- **When the last applied snapshot can be rendered**: just when the last push came behind a reload or
brought a coherent snapshot. All snapshots that the proxy was loaded for are coherent. And a call that
keeps the routes of the last applied snapshot fails to render only when that was not coherent. -/
theorem applied_coherent_iff (distinguished : Distinguished (configurations xs)) :
    ((∀ s, (reached others.overArtifacts settings xs (start, s₀)).1.applied.snapshot = some s →
        s.Coherent) ↔
      ∀ k, lastPush (history others.overArtifacts settings xs (start, s₀)) = some k →
        k.outcome.reloaded = true ∨ k.snapshot.Coherent) ∧
      ∀ k ∈ history others.overArtifacts settings xs (start, s₀),
        (k.outcome.reloaded = true → k.snapshot.Coherent) ∧
          ∀ s, k.before.1.applied.snapshot = some s → s.KeepsRoutes k.snapshot →
            k.outcome.kind = .renderFailed → ¬s.Coherent := by
  refine ⟨coherent_reached others settings s₀ distinguished fun x hx => List.mem_map_of_mem hx,
    fun k hk => ?_⟩
  obtain ⟨ys, x, hx, rfl⟩ := history_mem hk
  obtain ⟨loaded, unrendered⟩ := course_coherent
    (callOf_course others.overArtifacts settings (reached _ _ ys (start, s₀)) x)
  exact ⟨loaded, fun s _ keeps rendering coherent => unrendered rendering (keeps.coherent coherent)⟩

/-- A server, the same one twice, and that again from another source. -/
def oneServer : Snapshot where
  generation := 1
  servers := [{ hostname := "a.example", port := 80 }]

def doubledServer : Snapshot where
  generation := 2
  servers := [{ hostname := "a.example", port := 80 }, { hostname := "a.example", port := 80 }]

def doubledFromElsewhere : Snapshot := { doubledServer with generation := 3, sourceChecksum := "b" }

theorem doubledServer_distinguished :
    Distinguished (configurations [oneServer, doubledServer, doubledFromElsewhere]) := by
  have listed : ∀ a ∈ Configuration.empty ::
        configurations [oneServer, doubledServer, doubledFromElsewhere],
      a ∈ [.empty, oneServer.structural, doubledServer.structural] := by decide
  have differ : ([Configuration.empty, oneServer.structural, doubledServer.structural].map
      Fingerprint.of).Nodup := by decide +kernel
  exact fun a ha b hb same => List.inj_on_of_nodup_map differ (listed a ha) (listed b hb) same

theorem doubledServer_run :
    (reached Script.collaborators.overArtifacts sampleSettings [oneServer, doubledServer]
        (start, opening {})).1.applied.snapshot = some doubledServer ∧
      (callOf Script.collaborators.overArtifacts sampleSettings
        (reached Script.collaborators.overArtifacts sampleSettings [oneServer, doubledServer]
          (start, opening {})) doubledFromElsewhere).outcome.kind = .renderFailed := by
  decide +kernel

/-- The second server at the same place is applied, and the law says that it is why the call from
another source fails to render. -/
theorem doubledServer_coherent_iff :
    Distinguished (configurations [oneServer, doubledServer, doubledFromElsewhere]) ∧
      ∃ k ∈ history Script.collaborators.overArtifacts sampleSettings
          [oneServer, doubledServer, doubledFromElsewhere] (start, opening {}),
        k.before.1.applied.snapshot = some doubledServer ∧
          doubledServer.KeepsRoutes k.snapshot ∧ k.outcome.kind = .renderFailed ∧
          ¬doubledServer.Coherent := by
  have keeps : doubledServer.KeepsRoutes doubledFromElsewhere := .of_structural rfl
  have run : _ ∈ history Script.collaborators.overArtifacts sampleSettings
      ([oneServer, doubledServer] ++ [doubledFromElsewhere]) (start, opening {}) :=
    callOf_mem_history _ _ _
  have law := (applied_coherent_iff doubledServer_distinguished).2 _ run
  rw [callOf_before, callOf_snapshot] at law
  refine ⟨doubledServer_distinguished, _, run, ?_, ?_, doubledServer_run.2,
    law.2 doubledServer doubledServer_run.1 keeps doubledServer_run.2⟩
  · rw [callOf_before]
    exact doubledServer_run.1
  · rw [callOf_snapshot]
    exact keeps

/-- **A snapshot that cannot be rendered may be applied.** The second server at the same place calls
for no reload, so nobody looks at it. -/
theorem applied_not_coherent : ¬∀ (script : Script) (xs : List Snapshot) (s : Snapshot),
    (reached Script.collaborators.overArtifacts sampleSettings xs
      (start, opening script)).1.applied.snapshot = some s → s.Coherent := by
  intro law
  have coherent := law {} [oneServer, doubledServer] doubledServer doubledServer_run.1
  exact absurd coherent.distinct (by decide)

/-! ## Runs whose changes without a reload keep the routes -/

theorem coherent_of_bare {s : Snapshot} (bare : s.Bare) : s.Coherent := by
  constructor <;> simp [bare.servers]

/-- A snapshot that calls for no reload is coherent when it keeps the routes of a coherent one, or when
it is the first one. -/
theorem coherent_of_quiet {r : Reconciler} (before : r.applied.Coherent)
    (calls : (r.reason snapshot).calls = false)
    (keeps : ∀ s, r.applied.snapshot = some s → s.KeepsRoutes snapshot) : snapshot.Coherent := by
  cases last : r.applied.snapshot with
  | none => exact coherent_of_bare (bare_of_quiet last calls)
  | some s => exact (keeps s last).coherent (before s last)

theorem course_kept {r r' : Reconciler} {s s' : Session σ} {o : Outcome}
    (h : Course others.overArtifacts settings r s snapshot r' s' o) (before : r.applied.Coherent)
    (keeps : o.kind.isApplied = true → o.reloaded = false →
      ∀ last, r.applied.snapshot = some last → last.KeepsRoutes snapshot) :
    r'.applied.Coherent := by
  have told := (course_coherent h).1
  have applied : snapshot.Coherent → ∀ dynamic, Applied.Coherent ⟨some snapshot, dynamic⟩ := by
    rintro coherent _ _ ⟨⟩
    exact coherent
  cases h with
  | stale old => exact before
  | unsynced news sync => exact before
  | unloaded news sync calls load => exact before
  | unchanged news sync same =>
    exact applied (coherent_of_quiet before (calls_of_unchanged same) (keeps rfl rfl)) _
  | pushed news sync differs prepared push =>
    cases prepared with
    | reloaded calls load => exact applied (told rfl) _
    | running calls => exact applied (coherent_of_quiet before calls (keeps rfl rfl)) _
  | unpushed news sync differs prepared push =>
    cases prepared with
    | reloaded calls load => exact applied (told rfl) _
    | running calls => exact applied (coherent_of_quiet before calls (keeps rfl rfl)) _

/-- **The last applied snapshot can always be rendered in a run whose changes without a reload keep the
routes.** -/
theorem applied_coherent (keeps : ∀ k ∈ history others.overArtifacts settings xs (start, s₀),
      k.outcome.kind.isApplied = true → k.outcome.reloaded = false →
        ∀ s, k.before.1.applied.snapshot = some s → s.KeepsRoutes k.snapshot) :
    (reached others.overArtifacts settings xs (start, s₀)).1.applied.Coherent := by
  revert keeps
  refine history_induction (P := fun done q => (∀ k ∈ done, k.outcome.kind.isApplied = true →
    k.outcome.reloaded = false → ∀ s, k.before.1.applied.snapshot = some s →
      s.KeepsRoutes k.snapshot) → q.1.applied.Coherent) ?_ xs ?_
  · intro _ s hs
    simp [start] at hs
  · intro done q x _ ih keeps
    have before := ih fun k hk => keeps k (List.mem_append_left _ hk)
    exact course_kept (callOf_course others.overArtifacts settings q x) before
      (keeps (callOf others.overArtifacts settings q x) (by simp))

end Reconciler

end IngressControl
