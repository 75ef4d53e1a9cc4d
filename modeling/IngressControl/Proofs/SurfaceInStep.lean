import IngressControl.Proofs.ControlSurface
import IngressControl.Proofs.Reconciler.History
import Mathlib.Data.List.DropRight

/-!
# Whether the control surface is in step

The surface should hold what the last applied snapshot wants. A reconciler cannot ask it, so it keeps
a base, the configuration that the surface last took, and posts what differs from the base. When a
push fails nobody knows which posts were taken, and the base becomes the empty configuration for the
next push to be a full one.

But the empty configuration is a base like any other. A part in which the next snapshot is empty too
does not differ from it and is not posted, and what the surface held there stays. So a part is in step
just when it was left empty by the last failed push, or when a snapshot applied behind that push had
something in it (`surface_inStep_iff`).
-/

namespace IngressControl

/-- No two of some configurations have the same fingerprint, nor has one of them that of the empty
configuration. -/
def Distinguished (configurations : List Configuration) : Prop :=
  ∀ a ∈ Configuration.empty :: configurations, ∀ b ∈ Configuration.empty :: configurations,
    Fingerprint.of a = Fingerprint.of b → a = b

theorem Distinguished.mono {some all : List Configuration} (h : Distinguished all)
    (among : some ⊆ all) : Distinguished some :=
  fun a ha b hb => h a (List.cons_subset_cons _ among ha) b (List.cons_subset_cons _ among hb)

namespace Reconciler

variable {τ : Type} {client : ControlClient} {others : Collaborators τ}
  {settings : ReconcilerSettings} {snapshot : Snapshot}

/-! ## One reconciliation -/

section

variable {r r' : Reconciler} {s s' s₁ s₂ s₃ : Session (Surface × τ)} {o : Outcome}

theorem sync_surface {e : Except Failure Unit}
    (sync : (s.observeCertificates snapshot).syncMaterial (.overSurface client others) settings.store
      r.applied.snapshot snapshot = (s', e)) : s'.world.1 = s.world.1 := by
  have kept := Session.syncMaterial_keeps (Collaborators.overSurface_blind client others) sync
  exact kept

theorem loading_surface {e : Except Failure Unit}
    (h : Session.Loading (.overSurface client others) settings snapshot s s' e) :
    s'.world.1 = s.world.1 :=
  h.keeps (Collaborators.overSurface_blind client others)

theorem prepared_surface {reloaded : Bool}
    (h : Prepared (.overSurface client others) settings r snapshot s reloaded s') :
    s'.world.1 = s.world.1 := by
  cases h with
  | running calls => rfl
  | reloaded calls load =>
    obtain ⟨s₁, course, rfl⟩ := Session.reloadAndReport_ok load
    have kept := loading_surface course
    exact kept

theorem beforePush_surface (r : Reconciler) (settings : ReconcilerSettings)
    (s : Session (Surface × τ)) : (r.beforePush settings s).world.1 = s.world.1 := by
  unfold beforePush settle
  split <;> split <;> rfl

/-- All that a reconciliation does to the surface is its push, if it comes to one. -/
theorem pushing_surface {reloaded : Bool} {e : Except ControlError Unit} {n : SurfacePart}
    {new old : Configuration}
    (sync : (s.observeCertificates snapshot).syncMaterial (.overSurface client others) settings.store
      r.applied.snapshot snapshot = (s₁, .ok ()))
    (prepared : Prepared (.overSurface client others) settings r snapshot s₁ reloaded s₂)
    (push : (r.beforePush settings s₂).push (.overSurface client others) settings.backoff new old =
      (s₃, e)) :
    (n.Same new old → n.held s₃.world.1 = n.held s.world.1) ∧
      (e = .ok () → ¬n.Same new old → n.held s₃.world.1 = n.wanted new) := by
  obtain ⟨kept, left⟩ := SurfacePart.held_push (n := n) push
  rw [beforePush_surface, prepared_surface prepared, sync_surface sync] at kept
  exact ⟨kept, left⟩

/-- What a reconciliation makes of the surface and of the base, by its outcome. -/
inductive SurfaceStep (r : Reconciler) (snapshot : Snapshot) (before after : Surface)
    (applied : Applied) : OutcomeKind → Prop
  /-- Nothing was applied. -/
  | stopped {kind : OutcomeKind} (notApplied : kind.isApplied = false)
      (same : applied = r.applied) (kept : after = before) :
      SurfaceStep r snapshot before after applied kind
  | unchanged (equal : r.isUnchanged snapshot = true)
      (same : applied = ⟨some snapshot, r.applied.dynamic⟩) (kept : after = before) :
      SurfaceStep r snapshot before after applied .noChange
  | taken (new : applied = ⟨some snapshot, snapshot.structural⟩)
      (kept : ∀ n : SurfacePart, n.Same snapshot.structural r.applied.dynamic →
        n.held after = n.held before)
      (left : ∀ n : SurfacePart, ¬n.Same snapshot.structural r.applied.dynamic →
        n.held after = n.wanted snapshot.structural) :
      SurfaceStep r snapshot before after applied .success
  | untaken (new : applied = ⟨some snapshot, .empty⟩) :
      SurfaceStep r snapshot before after applied .dynamicPushFailed

theorem course_surface
    (h : Course (.overSurface client others) settings r s snapshot r' s' o) :
    SurfaceStep r snapshot s.world.1 s'.world.1 r'.applied o.kind := by
  cases h with
  | stale old => exact .stopped rfl rfl rfl
  | unsynced news sync =>
    have synced := sync_surface sync
    exact .stopped (notApplied_of_unsynced sync) rfl synced
  | unchanged news sync same =>
    exact .unchanged same rfl (sync_surface sync)
  | unloaded news sync calls load =>
    obtain ⟨s₁, course, rfl⟩ := Session.reloadAndReport_error load
    have synced := sync_surface sync
    have loaded := loading_surface course
    exact .stopped (notApplied_of_unloaded course) rfl (loaded.trans synced)
  | pushed news sync differs prepared push =>
    exact .taken rfl (fun n => (pushing_surface sync prepared push).1)
      (fun n => (pushing_surface sync prepared push).2 rfl)
  | unpushed news sync differs prepared push => exact .untaken rfl

/-- Without a collision an unchanged snapshot is the base itself. -/
theorem dynamic_of_unchanged {configurations : List Configuration}
    (distinguished : Distinguished configurations)
    (known : r.applied.configuration ∈ Configuration.empty :: configurations)
    (new : snapshot.structural ∈ configurations) (h : r.isUnchanged snapshot = true) :
    r.applied.dynamic = snapshot.structural := by
  simp only [isUnchanged, Bool.and_eq_true, decide_eq_true_eq] at h
  have inSync : r.applied.dynamic = r.applied.configuration := by simpa [inSync] using h.1.2
  rw [inSync]
  exact (distinguished _ (List.mem_cons_of_mem _ new) _ known h.2).symm

/-- It is the last applied configuration too. -/
theorem configuration_of_unchanged {configurations : List Configuration}
    (distinguished : Distinguished configurations)
    (known : r.applied.configuration ∈ Configuration.empty :: configurations)
    (new : snapshot.structural ∈ configurations) (h : r.isUnchanged snapshot = true) :
    snapshot.structural = r.applied.configuration := by
  simp only [isUnchanged, Bool.and_eq_true, decide_eq_true_eq] at h
  exact distinguished _ (List.mem_cons_of_mem _ new) _ known h.2

end

/-! ## Whole runs -/

/-- The calls behind the last failed push. -/
def sinceFailedPush (calls : List (Call (Surface × τ))) : List (Call (Surface × τ)) :=
  calls.rtakeWhile fun k => k.outcome.kind ≠ .dynamicPushFailed

/-- What a part held behind the last failed push, or in the beginning where none has failed. -/
def leftover (n : SurfacePart) (first : Surface) (calls : List (Call (Surface × τ))) : SectionBody :=
  match (calls.filter fun k => k.outcome.kind = .dynamicPushFailed).getLast? with
  | some k => n.held k.after.2.world.1
  | none => n.held first

/-- Some snapshot applied since the last failed push has something in a part. -/
def Filled (n : SurfacePart) (calls : List (Call (Surface × τ))) : Prop :=
  ∃ k ∈ sinceFailedPush calls,
    k.outcome.kind.isApplied = true ∧ ¬n.Same k.snapshot.structural .empty

variable {n : SurfacePart} {first : Surface} {calls : List (Call (Surface × τ))}
  {k : Call (Surface × τ)}

theorem leftover_snoc (h : k.outcome.kind ≠ .dynamicPushFailed) :
    leftover n first (calls ++ [k]) = leftover n first calls := by
  rw [leftover, leftover, List.filter_append]
  simp [h]

theorem leftover_failed (h : k.outcome.kind = .dynamicPushFailed) :
    leftover n first (calls ++ [k]) = n.held k.after.2.world.1 := by
  rw [leftover, List.filter_append]
  simp [h]

theorem filled_snoc (h : k.outcome.kind ≠ .dynamicPushFailed) : Filled n (calls ++ [k]) ↔
    Filled n calls ∨ (k.outcome.kind.isApplied = true ∧ ¬n.Same k.snapshot.structural .empty) := by
  have since : sinceFailedPush (calls ++ [k]) = sinceFailedPush calls ++ [k] :=
    List.rtakeWhile_concat_pos _ _ _ (by simpa using h)
  simp only [Filled, since, List.mem_append, List.mem_singleton]
  constructor
  · rintro ⟨j, hj | rfl, rest⟩
    · exact Or.inl ⟨j, hj, rest⟩
    · exact Or.inr rest
  · rintro (⟨j, hj, rest⟩ | rest)
    · exact ⟨j, Or.inl hj, rest⟩
    · exact ⟨k, Or.inr rfl, rest⟩

theorem not_filled_failed (h : k.outcome.kind = .dynamicPushFailed) : ¬Filled n (calls ++ [k]) := by
  have since : sinceFailedPush (calls ++ [k]) = [] :=
    List.rtakeWhile_concat_neg _ _ _ (by simp [h])
  rintro ⟨j, hj, _⟩
  rw [since] at hj
  simp at hj

/-- How a part of the surface stands to the base: it is in step with the base once something was in
it, and until then neither of the two was touched since the last failed push. -/
structure Tracked (n : SurfacePart) (first : Surface) (calls : List (Call (Surface × τ)))
    (surface : Surface) (base : Configuration) : Prop where
  filled : Filled n calls → n.held surface = n.wanted base
  bare : ¬Filled n calls → n.Same base .empty ∧ n.held surface = leftover n first calls

/-- When a part is in step with the base. -/
theorem Tracked.iff {surface : Surface} {base : Configuration}
    (h : Tracked n first calls surface base) :
    n.held surface = n.wanted base ↔ leftover n first calls = n.wanted .empty ∨ Filled n calls := by
  by_cases filled : Filled n calls
  · exact ⟨fun _ => Or.inr filled, fun _ => h.filled filled⟩
  · obtain ⟨same, held⟩ := h.bare filled
    rw [held, same.wanted]
    exact ⟨Or.inl, fun either => either.resolve_right filled⟩

/-- Each call keeps this, with the base that it leaves. -/
theorem Tracked.step {configurations : List Configuration} {r : Reconciler} {before : Surface}
    (h : Tracked n first calls before r.applied.dynamic)
    (distinguished : Distinguished configurations)
    (known : r.applied.configuration ∈ Configuration.empty :: configurations)
    (new : k.snapshot.structural ∈ configurations)
    (step : SurfaceStep r k.snapshot before k.after.2.world.1 k.after.1.applied k.outcome.kind) :
    Tracked n first (calls ++ [k]) k.after.2.world.1 k.after.1.applied.dynamic := by
  generalize hkind : k.outcome.kind = kind at step
  cases step with
  | stopped notApplied same kept =>
    have taken : k.outcome.kind ≠ .dynamicPushFailed := by
      rintro failed
      rw [← hkind, failed] at notApplied
      simp [OutcomeKind.isApplied] at notApplied
    have filled : Filled n (calls ++ [k]) ↔ Filled n calls := by
      rw [filled_snoc taken, hkind, notApplied]
      simp
    -- neither the surface nor the base has moved
    rw [same, kept]
    refine ⟨fun f => h.filled (filled.mp f), fun f => ?_⟩
    rw [leftover_snoc taken]
    exact h.bare (fun f' => f (filled.mpr f'))
  | unchanged equal same kept =>
    have taken : k.outcome.kind ≠ .dynamicPushFailed := by simp [hkind]
    have base := dynamic_of_unchanged distinguished known new equal
    have filled : Filled n (calls ++ [k]) ↔ Filled n calls := by
      rw [filled_snoc taken]
      refine ⟨fun either => ?_, Or.inl⟩
      rcases either with before | ⟨_, something⟩
      · exact before
      · -- the base has something in the part then, so it was filled before
        by_contra bare
        rw [← base] at something
        exact something (h.bare bare).1
    rw [same, kept]
    refine ⟨fun f => h.filled (filled.mp f), fun f => ?_⟩
    rw [leftover_snoc taken]
    exact h.bare (fun f' => f (filled.mpr f'))
  | taken applied kept left =>
    have taken : k.outcome.kind ≠ .dynamicPushFailed := by simp [hkind]
    have isApplied : k.outcome.kind.isApplied = true := by rw [hkind]; rfl
    rw [applied]
    constructor
    · intro filled
      by_cases same : n.Same k.snapshot.structural r.applied.dynamic
      · -- the part was not posted, so what it holds was in step before
        have before : Filled n calls := by
          rcases (filled_snoc taken).mp filled with before | ⟨_, something⟩
          · exact before
          · by_contra bare
            exact something (same.trans (h.bare bare).1)
        rw [kept n same, h.filled before, same.wanted]
      · exact left n same
    · intro bare
      rw [filled_snoc taken, not_or, not_and, not_not] at bare
      -- snapshot and base are both empty in the part, so it was not posted
      have nothing : n.Same k.snapshot.structural .empty := bare.2 isApplied
      obtain ⟨base, held⟩ := h.bare bare.1
      rw [leftover_snoc taken, kept n (nothing.trans base.symm)]
      exact ⟨nothing, held⟩
  | untaken applied =>
    -- the base is reset, and what the surface holds now is the new start
    rw [applied]
    refine ⟨fun filled => absurd filled (not_filled_failed hkind), fun _ => ?_⟩
    rw [leftover_failed hkind]
    exact ⟨.refl n _, rfl⟩

variable {xs : List Snapshot} {s₀ : Session (Surface × τ)}

/-- The configurations of some snapshots. -/
def configurations (xs : List Snapshot) : List Configuration := xs.map Snapshot.structural

theorem callOf_surface (client : ControlClient) (others : Collaborators τ)
    (settings : ReconcilerSettings) (p : Reconciler × Session (Surface × τ)) (x : Snapshot) :
    SurfaceStep p.1 x p.2.world.1
      (callOf (.overSurface client others) settings p x).after.2.world.1
      (callOf (.overSurface client others) settings p x).after.1.applied
      (callOf (.overSurface client others) settings p x).outcome.kind :=
  course_surface (callOf_course _ settings p x)

/-- What every run keeps: the last applied configuration is one of those handed in, and both parts
are tracked. -/
structure Followed (handed : List Configuration) (first : Surface)
    (calls : List (Call (Surface × τ))) (q : Reconciler × Session (Surface × τ)) : Prop where
  known : q.1.applied.configuration ∈ Configuration.empty :: handed
  tracked : ∀ n, Tracked n first calls q.2.world.1 q.1.applied.dynamic

theorem Followed.call {handed : List Configuration} {q : Reconciler × Session (Surface × τ)}
    {x : Snapshot} (h : Followed handed first calls q) (distinguished : Distinguished handed)
    (new : x.structural ∈ handed) :
    Followed handed first (calls ++ [callOf (.overSurface client others) settings q x])
      (callOf (.overSurface client others) settings q x).after := by
  have step := callOf_surface client others settings q x
  refine ⟨?_, fun n => (h.tracked n).step distinguished h.known new step⟩
  have present : x.structural ∈ Configuration.empty :: handed := List.mem_cons_of_mem _ new
  generalize (callOf (.overSurface client others) settings q x).outcome.kind = kind at step
  cases step with
  | stopped notApplied same kept => rw [same]; exact h.known
  | unchanged equal same kept => rw [same]; exact present
  | taken applied kept left => rw [applied]; exact present
  | untaken applied => rw [applied]; exact present

theorem followed_reached (client : ControlClient) (others : Collaborators τ)
    (settings : ReconcilerSettings) (s₀ : Session (Surface × τ)) {handed : List Configuration}
    (distinguished : Distinguished handed) (new : ∀ x ∈ xs, x.structural ∈ handed) :
    Followed handed s₀.world.1 (history (.overSurface client others) settings xs (start, s₀))
      (reached (.overSurface client others) settings xs (start, s₀)) := by
  refine history_induction (P := Followed handed s₀.world.1) ?_ xs ?_
  · refine ⟨List.mem_cons_self, fun n => ⟨?_, fun _ => ⟨.refl n _, rfl⟩⟩⟩
    rintro ⟨k, hk, _⟩
    simp [sinceFailedPush] at hk
  · intro done q x hx h
    exact h.call distinguished (new x hx)

/-- The base behind a call that succeeded or had nothing to do is what its snapshot wants. -/
theorem applied_of_done {handed : List Configuration} {q : Reconciler × Session (Surface × τ)}
    {x : Snapshot} (distinguished : Distinguished handed)
    (known : q.1.applied.configuration ∈ Configuration.empty :: handed)
    (new : x.structural ∈ handed)
    (kind : (callOf (.overSurface client others) settings q x).outcome.kind = .success ∨
      (callOf (.overSurface client others) settings q x).outcome.kind = .noChange) :
    (callOf (.overSurface client others) settings q x).after.1.applied =
      ⟨some x, x.structural⟩ := by
  have step := callOf_surface client others settings q x
  generalize (callOf (.overSurface client others) settings q x).outcome.kind = kind' at step kind
  cases step with
  | stopped notApplied same kept =>
    rcases kind with rfl | rfl <;> simp [OutcomeKind.isApplied] at notApplied
  | unchanged equal same kept => rw [same, dynamic_of_unchanged distinguished known new equal]
  | taken applied kept left => exact applied
  | untaken applied => simp at kind

/-- Behind a call that succeeded or had nothing to do both parts are tracked, with what its snapshot
wants for the base. -/
theorem tracked_of_done {x : Snapshot} (distinguished : Distinguished (configurations (xs ++ [x])))
    (kind : (callOf (.overSurface client others) settings
        (reached (.overSurface client others) settings xs (start, s₀)) x).outcome.kind = .success ∨
      (callOf (.overSurface client others) settings
        (reached (.overSurface client others) settings xs (start, s₀)) x).outcome.kind = .noChange) :
    (reached (.overSurface client others) settings (xs ++ [x]) (start, s₀)).1.applied.snapshot =
        some x ∧
      ∀ n : SurfacePart, Tracked n s₀.world.1
        (history (.overSurface client others) settings (xs ++ [x]) (start, s₀))
        (reached (.overSurface client others) settings (xs ++ [x]) (start, s₀)).2.world.1
        x.structural := by
  have new : ∀ y ∈ xs ++ [x], y.structural ∈ configurations (xs ++ [x]) :=
    fun y hy => List.mem_map_of_mem hy
  have earlier : ∀ y ∈ xs, y.structural ∈ configurations (xs ++ [x]) :=
    fun y hy => new y (List.mem_append_left _ hy)
  have before := followed_reached client others settings s₀ distinguished earlier
  have behind := followed_reached client others settings s₀ distinguished new
  have applied := applied_of_done distinguished before.known (new x (by simp)) kind
  rw [← reached_snoc] at applied
  refine ⟨by rw [applied], fun n => ?_⟩
  have tracked := behind.tracked n
  rw [applied] at tracked
  exact tracked

/-- **When the control surface is in step.** Behind a call that succeeded or had nothing to do, in any
run, a part holds what the last applied snapshot wants just when the last failed push left it empty,
or a snapshot applied since had something in it. -/
theorem surface_inStep_iff {x : Snapshot} (distinguished : Distinguished (configurations (xs ++ [x])))
    (kind : (callOf (.overSurface client others) settings
        (reached (.overSurface client others) settings xs (start, s₀)) x).outcome.kind = .success ∨
      (callOf (.overSurface client others) settings
        (reached (.overSurface client others) settings xs (start, s₀)) x).outcome.kind = .noChange) :
    (reached (.overSurface client others) settings (xs ++ [x]) (start, s₀)).1.applied.snapshot =
        some x ∧
      ∀ n : SurfacePart,
        n.held (reached (.overSurface client others) settings (xs ++ [x]) (start, s₀)).2.world.1 =
            n.wanted x.structural ↔
          leftover n s₀.world.1
              (history (.overSurface client others) settings (xs ++ [x]) (start, s₀)) =
              n.wanted .empty ∨
            Filled n (history (.overSurface client others) settings (xs ++ [x]) (start, s₀)) := by
  obtain ⟨applied, tracked⟩ := tracked_of_done distinguished kind
  exact ⟨applied, fun n => (tracked n).iff⟩

/-- A backend, then none any more. -/
def droppedBackend : List Snapshot := [
  { generation := 1, backends := [{ name := "web" }] },
  { generation := 2 }]

/-- A snapshot that routes nothing either. -/
def nothingMore : Snapshot := { generation := 3 }

/-- A surface that takes the first post and rejects the second one. -/
def rejection : Surface := { replies := [.status 200, .status 500] }

def sampleClient : ControlClient where
  base := { scheme := "http", host := some (.named "localhost"), path := .names [""] }

theorem droppedBackend_distinguished :
    Distinguished (configurations (droppedBackend ++ [nothingMore])) := by
  have listed : ∀ a ∈ Configuration.empty :: configurations (droppedBackend ++ [nothingMore]),
      a = .empty ∨ a = { backends := [{ name := "web" }] } := by decide
  have differ : Fingerprint.of .empty ≠ Fingerprint.of { backends := [{ name := "web" }] } := by
    decide +kernel
  intro a ha b hb same
  rcases listed a ha with rfl | rfl <;> rcases listed b hb with rfl | rfl
  · rfl
  · exact absurd same differ
  · exact absurd same.symm differ
  · rfl

theorem droppedBackend_run :
    (callOf (.overSurface sampleClient Script.collaborators) sampleSettings
        (reached (.overSurface sampleClient Script.collaborators) sampleSettings droppedBackend
          (start, opening (rejection, {}))) nothingMore).outcome.kind = .noChange ∧
      (reached (.overSurface sampleClient Script.collaborators) sampleSettings
        (droppedBackend ++ [nothingMore]) (start, opening (rejection, {}))).2.world.1.backends =
          [{ name := "web" }] := by
  decide +kernel

/-- The third call has nothing to do, and the law says what the surface holds. -/
theorem droppedBackend_inStep_iff :
    (reached (.overSurface sampleClient Script.collaborators) sampleSettings
        (droppedBackend ++ [nothingMore]) (start, opening (rejection, {}))).1.applied.snapshot =
        some nothingMore ∧
      ∀ n : SurfacePart,
        n.held (reached (.overSurface sampleClient Script.collaborators) sampleSettings
            (droppedBackend ++ [nothingMore]) (start, opening (rejection, {}))).2.world.1 =
            n.wanted nothingMore.structural ↔
          leftover n (opening (rejection, ({} : Script))).world.1
              (history (.overSurface sampleClient Script.collaborators) sampleSettings
                (droppedBackend ++ [nothingMore]) (start, opening (rejection, {}))) =
              n.wanted .empty ∨
            Filled n (history (.overSurface sampleClient Script.collaborators) sampleSettings
              (droppedBackend ++ [nothingMore]) (start, opening (rejection, {}))) :=
  surface_inStep_iff droppedBackend_distinguished (Or.inr droppedBackend_run.1)

/-- **A failed push is not always made up for.** The second push rejects the empty list of backends,
and the third call, which has nothing to do, leaves the backend on the surface. -/
theorem surface_not_inStep : ¬∀ (first : Surface) (script : Script) (xs : List Snapshot)
      (x : Snapshot),
    (∀ n : SurfacePart, n.held first = n.wanted .empty) →
    Distinguished (configurations (xs ++ [x])) →
    (callOf (.overSurface sampleClient Script.collaborators) sampleSettings
      (reached (.overSurface sampleClient Script.collaborators) sampleSettings xs
        (start, opening (first, script))) x).outcome.kind = .noChange →
    ∀ n : SurfacePart,
      n.held (reached (.overSurface sampleClient Script.collaborators) sampleSettings (xs ++ [x])
        (start, opening (first, script))).2.world.1 = n.wanted x.structural := by
  intro law
  have bare : ∀ n : SurfacePart, n.held rejection = n.wanted .empty := by
    intro n
    cases n <;> rfl
  have backends := law rejection {} droppedBackend nothingMore bare droppedBackend_distinguished
    droppedBackend_run.1 .backends
  rw [SurfacePart.held, droppedBackend_run.2] at backends
  exact absurd backends (by decide)

/-! ## Runs whose pushes are all taken -/

/-- **The surface stays in step in every run whose pushes are all taken**, when it holds nothing at
first. -/
theorem surface_inStep {x : Snapshot} (distinguished : Distinguished (configurations (xs ++ [x])))
    (bare : ∀ n : SurfacePart, n.held s₀.world.1 = n.wanted .empty)
    (pushed : ∀ k ∈ history (.overSurface client others) settings (xs ++ [x]) (start, s₀),
      k.outcome.kind ≠ .dynamicPushFailed)
    (kind : (callOf (.overSurface client others) settings
        (reached (.overSurface client others) settings xs (start, s₀)) x).outcome.kind = .success ∨
      (callOf (.overSurface client others) settings
        (reached (.overSurface client others) settings xs (start, s₀)) x).outcome.kind = .noChange)
    (n : SurfacePart) :
    n.held (reached (.overSurface client others) settings (xs ++ [x]) (start, s₀)).2.world.1 =
      n.wanted x.structural := by
  have none : (history (.overSurface client others) settings (xs ++ [x]) (start, s₀)).filter
      (fun k => k.outcome.kind = .dynamicPushFailed) = [] := by
    rw [List.filter_eq_nil_iff]
    intro k hk
    simpa using pushed k hk
  obtain ⟨_, tracked⟩ := tracked_of_done distinguished kind
  refine (tracked n).iff.mpr (Or.inl ?_)
  rw [leftover, none]
  exact bare n

end Reconciler

end IngressControl
