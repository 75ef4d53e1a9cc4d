import IngressControl.Proofs.Reconciler.Stages

/-!
# The courses that a reconciliation can take

A reconciliation takes one of six courses. Three leave the memory as it was: the snapshot is stale,
its material could not be stored, or the proxy could not be reloaded. The other three apply the
snapshot: nothing had to be done, the push was taken, or it was not.

`Course` has one constructor for each, with the guards that led there, the sessions on the way and
all that is left at the end. A law of reconciliations is proved by cases on it.
-/

namespace IngressControl.Reconciler

variable {σ : Type}

/-- The outcome of a reconciliation that did nothing but to look at the material. -/
def quiet (kind : OutcomeKind) (snapshot : Snapshot) : Outcome where
  kind := kind
  generation := snapshot.generation
  fingerprint := Fingerprint.of snapshot.structural

/-- What a reconciler drops when it applies a snapshot. -/
def dropped (r : Reconciler) (snapshot : Snapshot) : Removed :=
  Removed.between r.applied.configuration snapshot.structural

/-- The outcome when the push was taken. -/
def taken (r : Reconciler) (snapshot : Snapshot) (reloaded : Bool) : Outcome where
  kind := .success
  generation := snapshot.generation
  fingerprint := Fingerprint.of snapshot.structural
  reloaded := reloaded
  removed := r.dropped snapshot

/-- The outcome when the push was not taken. -/
def untaken (r : Reconciler) (snapshot : Snapshot) (reloaded : Bool) (e : ControlError) : Outcome :=
  { failed snapshot (.dynamicPush e) with reloaded, removed := r.dropped snapshot }

/-- The session with all that precedes a push: the first one waits, and one in full is announced. -/
def beforePush (r : Reconciler) (settings : ReconcilerSettings) (s : Session σ) : Session σ :=
  if r.inSync then r.settle settings s else (r.settle settings s).record .resend

/-- The figures recorded behind a push. -/
def pushFigures (r : Reconciler) (snapshot : Snapshot) : List Action :=
  [.dropSeries (r.dropped snapshot), .setBackendEndpoints snapshot.backends]

/-- The warning behind a push that was not taken. -/
def pushWarning (e : ControlError) : Action :=
  .send (.warning ("Unexpected failure reconfiguring proxy: " ++ (Failure.dynamicPush e).message))

/-- From the session whose material is in step to the one before the push, and whether the proxy was
reloaded between them. -/
inductive Prepared (c : Collaborators σ) (settings : ReconcilerSettings) (r : Reconciler)
    (snapshot : Snapshot) (s : Session σ) : Bool → Session σ → Prop
  | reloaded {s' : Session σ} (calls : (r.reason snapshot).calls = true)
      (load : s.reloadAndReport c settings snapshot (r.reason snapshot) = (s', .ok ())) :
      Prepared c settings r snapshot s true s'
  | running (calls : (r.reason snapshot).calls = false) : Prepared c settings r snapshot s false s

/-- One reconciliation, from a reconciler and a session to what it makes of both and its outcome. -/
inductive Course (c : Collaborators σ) (settings : ReconcilerSettings) (r : Reconciler)
    (s : Session σ) (snapshot : Snapshot) : Reconciler → Session σ → Outcome → Prop
  | stale (old : r.isStale snapshot = true) :
      Course c settings r s snapshot (r.keep (quiet .staleSnapshot snapshot)).1 s
        (quiet .staleSnapshot snapshot)
  | unsynced {s₁ : Session σ} {e : Failure} (news : r.isStale snapshot = false)
      (sync : (s.observeCertificates snapshot).syncMaterial c settings.store r.applied.snapshot
        snapshot = (s₁, .error e)) :
      Course c settings r s snapshot (r.keep (failed snapshot e)).1
        (s₁.record (.send (.warning e.message))) (failed snapshot e)
  | unchanged {s₁ : Session σ} (news : r.isStale snapshot = false)
      (sync : (s.observeCertificates snapshot).syncMaterial c settings.store r.applied.snapshot
        snapshot = (s₁, .ok ()))
      (same : r.isUnchanged snapshot = true) :
      Course c settings r s snapshot
        (advance snapshot r.applied.dynamic (quiet .noChange snapshot)).1 s₁
        (quiet .noChange snapshot)
  | unloaded {s₁ s₂ : Session σ} {e : Failure} (news : r.isStale snapshot = false)
      (sync : (s.observeCertificates snapshot).syncMaterial c settings.store r.applied.snapshot
        snapshot = (s₁, .ok ()))
      (calls : (r.reason snapshot).calls = true)
      (load : s₁.reloadAndReport c settings snapshot (r.reason snapshot) = (s₂, .error e)) :
      Course c settings r s snapshot (r.keep (failed snapshot e)).1 s₂ (failed snapshot e)
  | pushed {s₁ s₂ s₃ : Session σ} {reloaded : Bool} (news : r.isStale snapshot = false)
      (sync : (s.observeCertificates snapshot).syncMaterial c settings.store r.applied.snapshot
        snapshot = (s₁, .ok ()))
      (differs : r.isUnchanged snapshot = false)
      (prepared : Prepared c settings r snapshot s₁ reloaded s₂)
      (push : (r.beforePush settings s₂).push c settings.backoff snapshot.structural
        r.applied.dynamic = (s₃, .ok ())) :
      Course c settings r s snapshot
        (advance snapshot snapshot.structural (r.taken snapshot reloaded)).1
        { s₃ with actions := s₃.actions ++ r.pushFigures snapshot } (r.taken snapshot reloaded)
  | unpushed {s₁ s₂ s₃ : Session σ} {reloaded : Bool} {e : ControlError}
      (news : r.isStale snapshot = false)
      (sync : (s.observeCertificates snapshot).syncMaterial c settings.store r.applied.snapshot
        snapshot = (s₁, .ok ()))
      (differs : r.isUnchanged snapshot = false)
      (prepared : Prepared c settings r snapshot s₁ reloaded s₂)
      (push : (r.beforePush settings s₂).push c settings.backoff snapshot.structural
        r.applied.dynamic = (s₃, .error e)) :
      Course c settings r s snapshot
        (advance snapshot .empty (r.untaken snapshot reloaded e)).1
        { s₃ with actions := s₃.actions ++ (r.pushFigures snapshot ++ [pushWarning e]) }
        (r.untaken snapshot reloaded e)

/-- From the session before a reconciliation to the one behind its push, with the result of that. What the
two courses with a push have in common is proved of this. -/
inductive Pushing (c : Collaborators σ) (settings : ReconcilerSettings) (r : Reconciler)
    (s : Session σ) (snapshot : Snapshot) : Bool → Session σ → Except ControlError Unit → Prop
  | intro {s₁ s₂ s₃ : Session σ} {reloaded : Bool} {result : Except ControlError Unit}
      (sync : (s.observeCertificates snapshot).syncMaterial c settings.store r.applied.snapshot
        snapshot = (s₁, .ok ()))
      (prepared : Prepared c settings r snapshot s₁ reloaded s₂)
      (push : (r.beforePush settings s₂).push c settings.backoff snapshot.structural
        r.applied.dynamic = (s₃, result)) :
      Pushing c settings r s snapshot reloaded s₃ result

variable {c : Collaborators σ} {settings : ReconcilerSettings} {r : Reconciler} {s s₁ s₂ : Session σ}
  {snapshot : Snapshot}

theorem pushAndApply_course {reloaded : Bool} (news : r.isStale snapshot = false)
    (sync : (s.observeCertificates snapshot).syncMaterial c settings.store r.applied.snapshot
      snapshot = (s₁, .ok ()))
    (differs : r.isUnchanged snapshot = false)
    (prepared : Prepared c settings r snapshot s₁ reloaded s₂) :
    Course c settings r s snapshot (r.pushAndApply c settings s₂ snapshot reloaded).1
      (r.pushAndApply c settings s₂ snapshot reloaded).2.1
      (r.pushAndApply c settings s₂ snapshot reloaded).2.2 := by
  unfold pushAndApply
  dsimp only
  cases hpush : (r.beforePush settings s₂).push c settings.backoff snapshot.structural
      r.applied.dynamic with
  | mk s₃ result =>
    have started : (if r.inSync = true then r.settle settings s₂
        else (r.settle settings s₂).record .resend) = r.beforePush settings s₂ := rfl
    rw [started, hpush]
    cases result with
    | ok u =>
      dsimp only [Session.record]
      rw [List.append_assoc]
      exact Course.pushed news sync differs prepared hpush
    | error e =>
      dsimp only [Session.record]
      rw [List.append_assoc, List.append_assoc]
      exact Course.unpushed news sync differs prepared hpush

/-- **Every reconciliation takes one of the courses.** -/
theorem reconcile_course (c : Collaborators σ) (settings : ReconcilerSettings) (r : Reconciler)
    (s : Session σ) (snapshot : Snapshot) :
    Course c settings r s snapshot (r.reconcile c settings s snapshot).1
      (r.reconcile c settings s snapshot).2.1 (r.reconcile c settings s snapshot).2.2 := by
  unfold reconcile
  split
  · rename_i old
    exact .stale old
  · rename_i old
    have news : r.isStale snapshot = false := by simpa using old
    split
    · rename_i s₁ e sync
      exact .unsynced news sync
    · rename_i s₁ sync
      unfold applyRouting
      split
      · rename_i same
        exact .unchanged news sync same
      · rename_i changed
        have differs : r.isUnchanged snapshot = false := by simpa using changed
        split
        · rename_i calls
          split
          · rename_i s₂ e load
            exact .unloaded news sync calls load
          · rename_i s₂ load
            exact pushAndApply_course news sync differs (.reloaded calls load)
        · rename_i calls
          exact pushAndApply_course news sync differs (.running (by simpa using calls))

theorem isStale_eq_false_iff (r : Reconciler) (snapshot : Snapshot) : r.isStale snapshot = false ↔
    ∀ last, r.applied.snapshot = some last → last.generation < snapshot.generation := by
  unfold isStale
  cases r.applied.snapshot with
  | none => simp
  | some last => simp [Int64.not_le]

/-- A snapshot that calls for no action at all calls for no reload. -/
theorem calls_of_unchanged (h : r.isUnchanged snapshot = true) :
    (r.reason snapshot).calls = false := by
  simp only [isUnchanged, Bool.and_eq_true, Bool.not_eq_true'] at h
  exact h.1.1

/-- Where no reload is called for, the default material is that of the last applied snapshot. -/
theorem material_of_quiet (calls : (r.reason snapshot).calls = false) :
    MaterialKey.of r.applied.snapshot = MaterialKey.of (some snapshot) := by
  simp only [ReloadReason.calls, reason, Bool.or_eq_false_iff] at calls
  simpa using calls.1.2

/-- So it is in step already. -/
theorem syncMaterial_of_quiet {store : MaterialStore} (calls : (r.reason snapshot).calls = false) :
    s.syncMaterial c store r.applied.snapshot snapshot = (s, .ok ()) := by
  unfold Session.syncMaterial
  simp only [material_of_quiet calls, if_true]
  cases snapshot.defaultCertificate <;> cases snapshot.dhParam <;> rfl

/-- A snapshot is not applied when its material could not be stored. -/
theorem notApplied_of_unsynced {s' : Session σ} {store : MaterialStore} {last : Option Snapshot}
    {e : Failure} (sync : s.syncMaterial c store last snapshot = (s', .error e)) :
    (failed snapshot e).kind.isApplied = false := by
  rcases (Session.syncMaterial_error sync).1 with kind | kind <;>
    simp [failed, kind, OutcomeKind.isApplied]

/-- Nor is it when the proxy could not be reloaded. -/
theorem notApplied_of_unloaded {s' : Session σ} {e : Failure}
    (load : Session.Loading c settings snapshot s s' (.error e)) :
    (failed snapshot e).kind.isApplied = false := by
  rcases load.failure with kind | kind | kind | kind <;>
    simp [failed, kind, OutcomeKind.isApplied]

/-- A reconciliation takes over its snapshot, which is newer then, or it leaves the memory as it was. -/
theorem Course.remembers {r' : Reconciler} {s' : Session σ} {o : Outcome}
    (h : Course c settings r s snapshot r' s' o) :
    (o.kind.isApplied = true ∧ r.isStale snapshot = false ∧ r'.applied.snapshot = some snapshot) ∨
      (o.kind.isApplied = false ∧ r'.applied = r.applied) := by
  cases h with
  | stale old => exact Or.inr ⟨rfl, rfl⟩
  | unsynced news sync => exact Or.inr ⟨notApplied_of_unsynced sync, rfl⟩
  | unloaded news sync calls load =>
    obtain ⟨_, loading, _⟩ := Session.reloadAndReport_error load
    exact Or.inr ⟨notApplied_of_unloaded loading, rfl⟩
  | unchanged news sync same => exact Or.inl ⟨rfl, news, rfl⟩
  | pushed news sync differs prepared push => exact Or.inl ⟨rfl, news, rfl⟩
  | unpushed news sync differs prepared push => exact Or.inl ⟨rfl, news, rfl⟩

/-- A new snapshot that calls for no action is applied as it is, and only its certificates are looked
at. -/
theorem Course.of_unchanged {r' : Reconciler} {s' : Session σ} {o : Outcome}
    (h : Course c settings r s snapshot r' s' o) (news : r.isStale snapshot = false)
    (same : r.isUnchanged snapshot = true) :
    r'.applied = ⟨some snapshot, r.applied.dynamic⟩ ∧ s' = s.observeCertificates snapshot ∧
      o = quiet .noChange snapshot := by
  have calls := calls_of_unchanged same
  cases h with
  | stale old => simp [old] at news
  | unsynced news sync => simp [syncMaterial_of_quiet calls] at sync
  | unchanged news sync same' =>
    rw [syncMaterial_of_quiet calls] at sync
    cases sync
    exact ⟨rfl, rfl, rfl⟩
  | unloaded news sync calls' load => simp [calls] at calls'
  | pushed news sync differs prepared push => simp [same] at differs
  | unpushed news sync differs prepared push => simp [same] at differs

/-! ## What a reader sees of a course -/

variable {β : Type} {f : Action → Option β} {found : List β} {s' : Session σ}

/-- Deciding to reload and reporting on it adds nothing that is looked for. -/
theorem sees_reported {reason : ReloadReason} {report : List Action}
    (decide : f (.decideReload reason) = none) (silent : report.filterMap f = [])
    (h : Session.Sees f (s.record (.decideReload reason)) s' found) :
    Session.Sees f s { s' with actions := s'.actions ++ report } found := by
  have decided : Session.Sees f s (s.record (.decideReload reason)) [] :=
    (Session.Sees.of_same rfl).record decide
  have reported : Session.Sees f s' { s' with actions := s'.actions ++ report } [] :=
    ⟨report, rfl, silent⟩
  simpa using (decided.trans h).trans reported

/-- Whether an action is one of those that a reconciliation consists of up to its push, with what is
reported of a reload. -/
def ofPreparation : Action → Bool
  | .setCertificateExpiry _ => true
  | .setCertificateInfo _ => true
  | .storeCertificate _ => true
  | .storeDhParam _ => true
  | .decideReload _ => true
  | .recordConfiguration _ _ => true
  | .countReload => true
  | .countReloadError => true
  | .send _ => true
  | a => Session.ofReload a

section

variable (quiet : ∀ a, ofPreparation a = true → f a = none)

include quiet

/-- One who looks for none of these sees nothing of the material. -/
theorem sync_sees_nothing {last : Option Snapshot} {e : Except Failure Unit}
    (sync : (s.observeCertificates snapshot).syncMaterial c settings.store last snapshot = (s', e)) :
    Session.Sees f s s' [] := by
  refine Session.syncMaterial_sees (fun _ => ⟨quiet _ rfl, quiet _ rfl⟩) (fun a p hp => ?_) sync
  refine quiet a ?_
  cases a with
  | storeCertificate certificate => rfl
  | storeDhParam parameters => rfl
  | _ => simp [Session.piece?] at hp

/-- Nor of a reload, whether or not it works. -/
theorem load_sees_nothing {reason : ReloadReason} {e : Except Failure Unit}
    (load : s.reloadAndReport c settings snapshot reason = (s', e)) : Session.Sees f s s' [] := by
  have reload : ∀ a, Session.ofReload a = true → f a = none := by
    intro a reload
    refine quiet a ?_
    cases a <;> simp [Session.ofReload, ofPreparation] at reload ⊢
  have silent : ∀ as : List Action, (∀ a ∈ as, ofPreparation a = true) → as.filterMap f = [] :=
    fun as preparing => List.filterMap_eq_nil_iff.mpr fun a ha => quiet a (preparing a ha)
  cases e with
  | ok u =>
    obtain ⟨s₁, course, rfl⟩ := Session.reloadAndReport_ok load
    exact sees_reported (quiet _ rfl) (silent _ (by simp [Session.loadedReport, ofPreparation]))
      (course.sees_nothing reload)
  | error e =>
    obtain ⟨s₁, course, rfl⟩ := Session.reloadAndReport_error load
    exact sees_reported (quiet _ rfl) (silent _ (by simp [Session.unloadedReport, ofPreparation]))
      (course.sees_nothing reload)

theorem Prepared.sees_nothing {reloaded : Bool} (h : Prepared c settings r snapshot s reloaded s') :
    Session.Sees f s s' [] := by
  cases h with
  | running calls => exact .of_same rfl
  | reloaded calls load => exact load_sees_nothing quiet load

end

/-- Up to the push itself nothing is done but to wait and to announce it. -/
theorem beforePush_sees (resend : f .resend = none) :
    Session.Sees f s (r.beforePush settings s) [] ∧ (r.beforePush settings s).tree = s.tree := by
  have settled : (r.settle settings s).actions = s.actions ∧
      (r.settle settings s).tree = s.tree := by
    unfold settle
    split <;> exact ⟨rfl, rfl⟩
  unfold beforePush
  split
  · exact ⟨.of_same settled.1, settled.2⟩
  · exact ⟨(Session.Sees.of_same settled.1).record resend, settled.2⟩

/-- A push leaves all files, and what can be seen of it are its attempts: at least one, and all of them
alike. -/
theorem push_sees {e : Except ControlError Unit} {new old : Configuration} {figures : List Action}
    (resend : f .resend = none) (silent : figures.filterMap f = [])
    (push : (r.beforePush settings s).push c settings.backoff new old = (s', e)) :
    s'.tree = s.tree ∧ ∃ times : List Nat, times ≠ [] ∧
      Session.Sees f s { s' with actions := s'.actions ++ figures }
        ((times.map fun time => .configure time new old).filterMap f) := by
  obtain ⟨tree, times, once, acts⟩ := Session.push_effect push
  obtain ⟨before, unmoved⟩ : Session.Sees f s (r.beforePush settings s) [] ∧
      (r.beforePush settings s).tree = s.tree := beforePush_sees resend
  have recorded : Session.Sees f s' { s' with actions := s'.actions ++ figures } [] :=
    ⟨figures, rfl, silent⟩
  refine ⟨tree.trans unmoved, times, once, ?_⟩
  simpa using (before.trans (.of_actions _ acts)).trans recorded

/-- One who looks for other actions sees nothing of a push. -/
theorem push_quiet {e : Except ControlError Unit} {new old : Configuration} {figures : List Action}
    (attempt : ∀ time, f (.configure time new old) = none) (resend : f .resend = none)
    (silent : figures.filterMap f = [])
    (push : (r.beforePush settings s).push c settings.backoff new old = (s', e)) :
    Session.Sees f s { s' with actions := s'.actions ++ figures } [] ∧ s'.tree = s.tree := by
  obtain ⟨tree, times, _, sees⟩ := push_sees resend silent push
  have none : (times.map fun time => Action.configure time new old).filterMap f = [] := by
    simp [attempt]
  exact ⟨none ▸ sees, tree⟩

end IngressControl.Reconciler
