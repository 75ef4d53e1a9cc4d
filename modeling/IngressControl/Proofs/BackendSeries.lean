import IngressControl.Proofs.Change
import IngressControl.Proofs.FailedPush
import Mathlib.Data.List.Nodup

/-!
# The series of the backends

Each push leaves a series for every backend of its snapshot. A series whose backend is gone would stay
for ever if nobody dropped it, and one that is dropped too much would be missed, so a push first drops
the backends of the last applied snapshot that the new one has not. A call that does not push touches no
series at all.

`HasSeries` tells which series there are from the actions alone, without the reconciler: those that were
set and not dropped behind that. They are always the backends of the last applied snapshot
(`backendSeries_exact`). Each push sees to that by comparing with the snapshot before it only, so calls
that fail in between must leave both sides alone; and a call that has nothing to do takes over a snapshot
without looking at its backends, which is right as long as its fingerprint is no other one's.
-/

namespace IngressControl

/-- There is a series for a backend: one of the actions has set it, and none behind that has dropped it. -/
def HasSeries (name : String) (actions : List Action) : Prop :=
  ∃ before backends after, actions = before ++ .setBackendEndpoints backends :: after ∧
    name ∈ backends.map (·.name) ∧ ∀ removed, .dropSeries removed ∈ after → name ∉ removed.backends

/-- The action, if it sets or drops series of backends. -/
def series? : Action → Option Action
  | .dropSeries removed => some (.dropSeries removed)
  | .setBackendEndpoints backends => some (.setBackendEndpoints backends)
  | _ => none

variable {name : String} {actions : List Action}

theorem not_hasSeries_nil : ¬HasSeries name [] := by
  rintro ⟨before, backends, after, split, _⟩
  simp at split

/-- One more action sets a series, or leaves it unless it drops it. -/
theorem hasSeries_snoc {a : Action} : HasSeries name (actions ++ [a]) ↔
    (∃ backends, a = .setBackendEndpoints backends ∧ name ∈ backends.map (·.name)) ∨
      HasSeries name actions ∧ ∀ removed, a = .dropSeries removed → name ∉ removed.backends := by
  constructor
  · rintro ⟨before, backends, after, split, listed, undropped⟩
    -- the action that has set the series is the last one, or it stands before that
    rcases List.eq_nil_or_concat after with rfl | ⟨front, last, rfl⟩
    · obtain ⟨_, same⟩ := List.append_inj' split rfl
      exact Or.inl ⟨backends, List.singleton_inj.mp same, listed⟩
    · rw [List.concat_eq_append, ← List.cons_append, ← List.append_assoc] at split
      obtain ⟨same, same'⟩ := List.append_inj' split rfl
      cases List.singleton_inj.mp same'
      refine Or.inr ⟨⟨before, backends, front, same, listed, fun removed drop => ?_⟩, ?_⟩
      · exact undropped removed (by simp [drop])
      · rintro removed rfl
        exact undropped removed (by simp)
  · rintro (⟨backends, rfl, listed⟩ | ⟨⟨before, backends, after, rfl, listed, undropped⟩, kept⟩)
    · exact ⟨actions, backends, [], rfl, listed, by simp⟩
    · refine ⟨before, backends, after ++ [a], by simp, listed, fun removed drop => ?_⟩
      rcases List.mem_append.mp drop with earlier | last
      · exact undropped removed earlier
      · exact kept removed (List.mem_singleton.mp last).symm

theorem hasSeries_set {backends : List Backend} :
    HasSeries name (actions ++ [.setBackendEndpoints backends]) ↔
      name ∈ backends.map (·.name) ∨ HasSeries name actions := by
  rw [hasSeries_snoc]
  simp

theorem hasSeries_drop {removed : Removed} :
    HasSeries name (actions ++ [.dropSeries removed]) ↔
      HasSeries name actions ∧ name ∉ removed.backends := by
  rw [hasSeries_snoc]
  simp

/-- No other actions matter. -/
theorem hasSeries_filterMap :
    HasSeries name (actions.filterMap series?) ↔ HasSeries name actions := by
  have own : ∀ {a b : Action}, series? a = some b → b = a := by
    intro a b h
    cases a <;> simp [series?] at h <;> exact h.symm
  induction actions using List.reverseRecOn with
  | nil => rfl
  | append_singleton actions a ih =>
    have before : HasSeries name (actions.filterMap series?) ↔ HasSeries name actions := ih
    rw [List.filterMap_append, hasSeries_snoc, ← before]
    cases shown : series? a with
    | none =>
      have noSet : ∀ backends, a ≠ .setBackendEndpoints backends := by
        rintro backends rfl
        cases shown
      have noDrop : ∀ removed, a ≠ .dropSeries removed := by
        rintro removed rfl
        cases shown
      simp [shown, noSet, noDrop]
    | some b =>
      cases own shown
      have alone : [a].filterMap series? = [a] := by simp [shown]
      rw [alone, hasSeries_snoc]

/-- The names of the backends of the last applied snapshot; without one there are none. -/
def Applied.backendNames (a : Applied) : List String := a.configuration.backends.map (·.name)

namespace Reconciler

variable {σ : Type} {c : Collaborators σ} {settings : ReconcilerSettings} {snapshot : Snapshot}

/-! ## One reconciliation -/

section

variable {r r' : Reconciler} {s s' s₁ s₂ : Session σ} {o : Outcome}

/-- What a reconciliation does to the series, and what it remembers then. -/
inductive SeriesStep (r : Reconciler) (snapshot : Snapshot) : List Action → Applied → Prop
  /-- Nothing was applied. -/
  | left : SeriesStep r snapshot [] r.applied
  | unchanged (same : r.isUnchanged snapshot = true) :
      SeriesStep r snapshot [] ⟨some snapshot, r.applied.dynamic⟩
  | pushed {dynamic : Configuration} :
      SeriesStep r snapshot (r.pushFigures snapshot) ⟨some snapshot, dynamic⟩

/-- Up to its push a reconciliation leaves the series alone. -/
theorem series?_preparing (a : Action) (preparing : ofPreparation a = true) : series? a = none := by
  cases a <;> simp [ofPreparation, Session.ofReload, series?] at preparing ⊢

theorem prepared_leavesSeries {last : Option Snapshot} {reloaded : Bool}
    (sync : (s.observeCertificates snapshot).syncMaterial c settings.store last snapshot =
      (s₁, .ok ()))
    (prepared : Prepared c settings r snapshot s₁ reloaded s₂) : Session.Sees series? s s₂ [] :=
  (sync_sees_nothing series?_preparing sync).trans (prepared.sees_nothing series?_preparing)

variable (snapshot) in
/-- A push drops and sets series once, behind its attempts. -/
theorem push_series {new old : Configuration} {e : Except ControlError Unit}
    (push : (r.beforePush settings s).push c settings.backoff new old = (s', e)) :
    Session.Sees series? s { s' with actions := s'.actions ++ r.pushFigures snapshot }
      (r.pushFigures snapshot) := by
  have silent : ([] : List Action).filterMap series? = [] := rfl
  have attempted := (push_quiet (fun _ => rfl) rfl silent push).1
  have set : Session.Sees series? { s' with actions := s'.actions ++ [] }
      { s' with actions := s'.actions ++ r.pushFigures snapshot } (r.pushFigures snapshot) :=
    ⟨r.pushFigures snapshot, by simp, rfl⟩
  exact attempted.trans set

theorem course_series (h : Course c settings r s snapshot r' s' o) :
    ∃ found, Session.Sees series? s s' found ∧ SeriesStep r snapshot found r'.applied := by
  cases h with
  | stale old => exact ⟨[], .of_same rfl, .left⟩
  | unsynced news sync =>
    exact ⟨[], (sync_sees_nothing series?_preparing sync).record rfl, .left⟩
  | unchanged news sync same =>
    exact ⟨[], sync_sees_nothing series?_preparing sync, .unchanged same⟩
  | unloaded news sync calls load =>
    exact ⟨[], (sync_sees_nothing series?_preparing sync).trans
      (load_sees_nothing series?_preparing load), .left⟩
  | pushed news sync differs prepared push =>
    exact ⟨_, (prepared_leavesSeries sync prepared).trans (push_series snapshot push), .pushed⟩
  | @unpushed s₁ s₂ s₃ reloaded e news sync differs prepared push =>
    have pushed := (prepared_leavesSeries sync prepared).trans (push_series snapshot push)
    refine ⟨_, ?_, .pushed⟩
    simpa [Session.record] using pushed.record (a := pushWarning e) rfl

end

/-! ## Whole runs -/

/-- There is a series for each backend of the last applied snapshot, and no other one. -/
def SeriesExact (found : List Action) (a : Applied) : Prop :=
  ∀ name, HasSeries name found ↔ name ∈ a.backendNames

theorem SeriesExact.step {handed : List Configuration} {r : Reconciler} {found more : List Action}
    {applied : Applied} (h : SeriesExact found r.applied) (distinguished : Distinguished handed)
    (known : r.applied.configuration ∈ Configuration.empty :: handed)
    (new : snapshot.structural ∈ handed) (step : SeriesStep r snapshot more applied) :
    SeriesExact (found ++ more) applied := by
  intro name
  cases step with
  | left => rw [List.append_nil, h name]
  | unchanged same =>
    -- the configuration has not moved, so its backends have not
    have kept := configuration_of_unchanged distinguished known new same
    rw [List.append_nil, h name, Applied.backendNames, Applied.backendNames, ← kept]
    rfl
  | @pushed dynamic =>
    have split : found ++ r.pushFigures snapshot =
        (found ++ [.dropSeries (r.dropped snapshot)]) ++ [.setBackendEndpoints snapshot.backends] := by
      simp [pushFigures]
    have gone : name ∈ (r.dropped snapshot).backends ↔
        name ∈ r.applied.backendNames ∧ name ∉ snapshot.backends.map (·.name) := Removed.mem_names
    have now : name ∈ Applied.backendNames ⟨some snapshot, dynamic⟩ ↔
        name ∈ snapshot.backends.map (·.name) := Iff.rfl
    rw [split, hasSeries_set, hasSeries_drop, h name, gone, now]
    constructor
    · rintro (listed | ⟨before, stays⟩)
      · exact listed
      · -- it was there before and was not dropped, so the new snapshot has it
        by_contra absent
        exact stays ⟨before, absent⟩
    · exact Or.inl

theorem series_reached (c : Collaborators σ) (settings : ReconcilerSettings) (s₀ : Session σ)
    {xs : List Snapshot} {handed : List Configuration} (distinguished : Distinguished handed)
    (new : ∀ x ∈ xs, x.structural ∈ handed) :
    ∃ found, Session.Sees series? s₀ (reached c settings xs (start, s₀)).2 found ∧
      SeriesExact found (reached c settings xs (start, s₀)).1.applied := by
  induction xs using List.reverseRecOn with
  | nil => exact ⟨[], .of_same rfl, fun name => iff_of_false not_hasSeries_nil List.not_mem_nil⟩
  | append_singleton xs x ih =>
    have earlier : ∀ y ∈ xs, y.structural ∈ handed := fun y hy => new y (by simp [hy])
    obtain ⟨found, sees, exact⟩ := ih earlier
    obtain ⟨more, sees', step⟩ := course_series (callOf_course c settings _ x)
    have known := (remembered_reached c settings s₀ earlier).known
    rw [reached_snoc]
    exact ⟨found ++ more, sees.trans sees', exact.step distinguished known (new x (by simp)) step⟩

/-- **The series are those of the last applied snapshot.** Behind every run, whatever the collaborators
answered, the backends whose series were set and not dropped later are the backends of the snapshot that
was applied last, and while none was applied there are none. -/
theorem backendSeries_exact (c : Collaborators σ) (settings : ReconcilerSettings) (s₀ : Session σ)
    {xs : List Snapshot} (distinguished : Distinguished (configurations xs)) :
    ∃ actions, (reached c settings xs (start, s₀)).2.actions = s₀.actions ++ actions ∧
      ∀ name, HasSeries name actions ↔
        name ∈ (reached c settings xs (start, s₀)).1.applied.backendNames := by
  obtain ⟨_, ⟨actions, acts, rfl⟩, exact⟩ :=
    series_reached c settings s₀ distinguished fun x hx => List.mem_map_of_mem hx
  exact ⟨actions, acts, fun name => hasSeries_filterMap.symm.trans (exact name)⟩

/-- A backend, a snapshot that cannot be rendered, and another backend. -/
def replacedBackend : List Snapshot := [
  { generation := 1, backends := [{ name := "web" }] },
  { generation := 2, servers := [{ hostname := "", port := 80 }] },
  { generation := 3, backends := [{ name := "api" }] }]

/-- The law says of this run that the series of the first backend was dropped, although the call behind
it failed. -/
theorem replacedBackend_series :
    Distinguished (configurations replacedBackend) ∧
      (reached Script.collaborators sampleSettings replacedBackend
        (start, opening {})).1.appliedGeneration = some 3 ∧
      ∃ actions, (reached Script.collaborators sampleSettings replacedBackend
          (start, opening {})).2.actions = (opening ({} : Script)).actions ++ actions ∧
        HasSeries "api" actions ∧ ¬HasSeries "web" actions := by
  have distinguished : Distinguished (configurations replacedBackend) :=
    List.inj_on_of_nodup_map (by decide +kernel)
  have applied : (reached Script.collaborators sampleSettings replacedBackend
      (start, opening {})).1.applied.snapshot =
        some { generation := 3, backends := [{ name := "api" }] } := by decide +kernel
  obtain ⟨actions, acts, exact⟩ :=
    backendSeries_exact Script.collaborators sampleSettings (opening {}) distinguished
  rw [Applied.backendNames, Applied.configuration, applied] at exact
  refine ⟨distinguished, by rw [appliedGeneration, applied]; rfl, actions, acts, ?_, ?_⟩ <;>
    simp [exact, Snapshot.structural]

end Reconciler

end IngressControl
