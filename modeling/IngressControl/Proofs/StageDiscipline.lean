import IngressControl.Proofs.Reconciler.Passage

/-!
# The discipline of the stages

The state of a reconciler and the snapshot in hand tell which stages are called for
(`Reconciler.plan`). Every reconciliation is a passage of its plan (`reconcile_passage`), and the kind of
its outcome names the stage that it stands behind. All that the actions of a call tell of its stages
follows from that alone (`call_disciplined`).
-/

namespace IngressControl.Reconciler

variable {σ : Type} {c : Collaborators σ} {settings : ReconcilerSettings} {r : Reconciler}
  {snapshot : Snapshot} {artifact : String} {reached : List Stage} {s s₁ s₂ s' : Session σ}

/-- The stages that a snapshot calls for. -/
def plan (r : Reconciler) (snapshot : Snapshot) : List Stage :=
  if r.isStale snapshot then []
  else [.expiry, .info] ++ (Session.outdated r.applied.snapshot snapshot).filterMap Stage.of? ++
    if r.isUnchanged snapshot then []
    else (if (r.reason snapshot).calls then [.render, .dryRun, .write, .signal] else []) ++
      [.push, .dropSeries, .setEndpoints]

theorem outdated_noPush (last : Option Snapshot) (snapshot : Snapshot) :
    .push ∉ (Session.outdated last snapshot).filterMap Stage.of? := by
  intro push
  obtain ⟨a, listed, found⟩ := List.mem_filterMap.mp push
  obtain ⟨p, _, piece⟩ := Session.piece?_outdated ⟨""⟩ listed
  cases a <;> simp [Session.piece?, Stage.of?] at piece found

/-- A plan keeps to the order of the stages. -/
theorem plan_sublist (r : Reconciler) (snapshot : Snapshot) :
    (r.plan snapshot).Sublist Stage.all := by
  have certificate : ((Session.outdatedCertificate r.applied.snapshot snapshot).toList.filterMap
      Stage.of?).Sublist [.certificate] := by
    unfold Session.outdatedCertificate
    split
    · exact List.nil_sublist _
    · cases snapshot.defaultCertificate with
      | none => exact List.nil_sublist _
      | some x => exact List.Sublist.refl _
  have dhParam : ((Session.outdatedDhParam r.applied.snapshot snapshot).toList.filterMap
      Stage.of?).Sublist [.dhParam] := by
    unfold Session.outdatedDhParam
    split
    · exact List.nil_sublist _
    · cases snapshot.dhParam with
      | none => exact List.nil_sublist _
      | some x => exact List.Sublist.refl _
  have reload : (if (r.reason snapshot).calls then [Stage.render, .dryRun, .write, .signal]
      else []).Sublist [.render, .dryRun, .write, .signal] := by
    split
    · exact List.Sublist.refl _
    · exact List.nil_sublist _
  unfold plan
  split
  · exact List.nil_sublist _
  · rw [Session.outdated, List.filterMap_append]
    refine ((List.Sublist.refl [.expiry, .info]).append (certificate.append dhParam)).append ?_
    split
    · exact List.nil_sublist _
    · exact reload.append (.refl _)

theorem observed_passage : Passage c settings r snapshot artifact [.expiry, .info] [.expiry, .info] s
    (s.observeCertificates snapshot) none :=
  .passed (.refl s) .expiry (Or.inl rfl) (.single .info (by decide))

theorem certificate_passage {result : Except Failure Unit}
    (h : (match snapshot.defaultCertificate with
      | some certificate =>
        if (MaterialKey.of r.applied.snapshot).certificate =
            (MaterialKey.of (some snapshot)).certificate then (s, .ok ())
        else s.syncCertificate c settings.store certificate
      | none => (s, .ok ())) = (s', result)) :
    ∃ reached, Passage c settings r snapshot artifact
      ((Session.outdatedCertificate r.applied.snapshot snapshot).toList.filterMap Stage.of?) reached
      s s' (failureOf id result) := by
  unfold Session.outdatedCertificate
  split at h
  · rename_i x hx
    split at h
    · rename_i same
      cases h
      rw [if_pos same]
      exact ⟨[], .done (.refl s)⟩
    · rename_i differs
      rw [if_neg differs, hx]
      exact ⟨_, .single (.certificate hx h) (by decide)⟩
  · rename_i hx
    cases h
    rw [hx, Option.map_none, ite_self]
    exact ⟨[], .done (.refl s)⟩

theorem dhParam_passage {result : Except Failure Unit}
    (h : (match snapshot.dhParam with
      | some parameters =>
        if (MaterialKey.of r.applied.snapshot).dhParam = (MaterialKey.of (some snapshot)).dhParam then
          (s, .ok ())
        else s.syncDhParam c settings.store parameters
      | none => (s, .ok ())) = (s', result)) :
    ∃ reached, Passage c settings r snapshot artifact
      ((Session.outdatedDhParam r.applied.snapshot snapshot).toList.filterMap Stage.of?) reached
      s s' (failureOf id result) := by
  unfold Session.outdatedDhParam
  split at h
  · rename_i x hx
    split at h
    · rename_i same
      cases h
      rw [if_pos same]
      exact ⟨[], .done (.refl s)⟩
    · rename_i differs
      rw [if_neg differs, hx]
      exact ⟨_, .single (.dhParam hx h) (by decide)⟩
  · rename_i hx
    cases h
    rw [hx, Option.map_none, ite_self]
    exact ⟨[], .done (.refl s)⟩

theorem material_passage {result : Except Failure Unit}
    (h : s.syncMaterial c settings.store r.applied.snapshot snapshot = (s', result)) :
    ∃ reached, Passage c settings r snapshot artifact
      ((Session.outdated r.applied.snapshot snapshot).filterMap Stage.of?) reached s s'
      (failureOf id result) := by
  have noPush := outdated_noPush r.applied.snapshot snapshot
  rw [Session.outdated, List.filterMap_append] at noPush ⊢
  unfold Session.syncMaterial at h
  dsimp only at h
  split at h
  · rename_i s₁ e hcert
    cases h
    obtain ⟨reached, passage⟩ := certificate_passage hcert
    exact ⟨reached, passage.append_of_failed (fun h => noPush (List.mem_append_left _ h)) _⟩
  · rename_i s₁ hcert
    obtain ⟨certified, first⟩ := certificate_passage hcert
    obtain ⟨reached, second⟩ := dhParam_passage h
    exact ⟨certified ++ reached, first.append second⟩

theorem loading_passage {result : Except Failure Unit}
    (h : Session.Loading c settings snapshot s s' result) : ∃ artifact reached,
      Passage c settings r snapshot artifact [.render, .dryRun, .write, .signal] reached s s'
        (failureOf id result) := by
  -- a stage of a reload is no push, so a passage goes on behind it only when it has succeeded
  have only : ∀ {text artifact : String}, Except.ok (ε := RenderError) text = .ok artifact →
      artifact = text := fun same => (Except.ok.inj same).symm
  cases h with
  | unrendered render =>
    exact ⟨"", _, .stopped (.refl _) (.render render (by simp)) (by decide) (.refl _)⟩
  | @refused s₁ s₂ artifact e render dryRun =>
    exact ⟨artifact, _, .passed (.refl _) (.render render fun _ => only) (Or.inl rfl)
      (.stopped (.refl _) (.dryRun dryRun) (by decide) (.refl _))⟩
  | @unwritten s₁ s₂ s₃ artifact e render dryRun replace =>
    exact ⟨artifact, _, .passed (.refl _) (.render render fun _ => only) (Or.inl rfl)
      (.passed (.refl _) (.dryRun dryRun) (Or.inl rfl)
        (.stopped (.refl _) (.write replace) (by decide) (.refl _)))⟩
  | @unsignalled s₁ s₂ s₃ s₄ artifact e render dryRun replace signal =>
    exact ⟨artifact, _, .passed (.refl _) (.render render fun _ => only) (Or.inl rfl)
      (.passed (.refl _) (.dryRun dryRun) (Or.inl rfl)
        (.passed (.refl _) (.write replace) (Or.inl rfl)
          (.stopped (.refl _) (.signal signal) (by decide) (.refl _))))⟩
  | @loaded s₁ s₂ s₃ s₄ artifact render dryRun replace signal =>
    exact ⟨artifact, _, .passed (.refl _) (.render render fun _ => only) (Or.inl rfl)
      (.passed (.refl _) (.dryRun dryRun) (Or.inl rfl)
        (.passed (.refl _) (.write replace) (Or.inl rfl)
          (.passed (.refl _) (.signal signal) (Or.inl rfl) (.done (.refl _)))))⟩

theorem reload_passage {result : Except Failure Unit} {reason : ReloadReason}
    (h : s.reloadAndReport c settings snapshot reason = (s', result)) : ∃ artifact reached,
      Passage c settings r snapshot artifact [.render, .dryRun, .write, .signal] reached s s'
        (failureOf id result) := by
  have decided : s.Notes (s.record (.decideReload reason)) := .of_actions s rfl
  cases result with
  | ok u =>
    obtain ⟨s₁, course, rfl⟩ := Session.reloadAndReport_ok h
    obtain ⟨artifact, reached, passage⟩ := loading_passage course
    exact ⟨artifact, reached, (passage.behind decided).before (.of_actions s₁ rfl)⟩
  | error e =>
    obtain ⟨s₁, course, rfl⟩ := Session.reloadAndReport_error h
    obtain ⟨artifact, reached, passage⟩ := loading_passage course
    exact ⟨artifact, reached, (passage.behind decided).before (.of_actions s₁ rfl)⟩

/-- Between the material and the push the proxy is reloaded if the snapshot calls for that. -/
theorem prepared_passage {reloaded : Bool} (h : Prepared c settings r snapshot s reloaded s') :
    ∃ artifact reached, Passage c settings r snapshot artifact
      (if (r.reason snapshot).calls then [.render, .dryRun, .write, .signal] else []) reached s s'
      none := by
  cases h with
  | reloaded calls load =>
    rw [if_pos calls]
    exact reload_passage load
  | running calls =>
    rw [if_neg (by simp [calls])]
    exact ⟨"", [], .done (.refl s)⟩

theorem push_passage {result : Except ControlError Unit}
    (push : (r.beforePush settings s).push c settings.backoff snapshot.structural
      r.applied.dynamic = (s', result)) :
    Passage c settings r snapshot artifact [.push, .dropSeries, .setEndpoints]
      [.push, .dropSeries, .setEndpoints] s
      { s' with actions := s'.actions ++ r.pushFigures snapshot } (failureOf .dynamicPush result) := by
  have started : s.Notes (r.beforePush settings s) := by
    obtain ⟨silent, tree⟩ : Session.Sees Stage.of? s (r.beforePush settings s) [] ∧ _ :=
      beforePush_sees rfl
    refine ⟨tree, ?_, silent⟩
    unfold beforePush settle
    split <;> split <;> rfl
  have figures : { s' with actions := s'.actions ++ r.pushFigures snapshot } =
      (s'.record (.dropSeries (r.dropped snapshot))).record
        (.setBackendEndpoints snapshot.backends) := by
    simp [Session.record, pushFigures]
  have recorded : Passage c settings r snapshot artifact [.dropSeries, .setEndpoints]
      [.dropSeries, .setEndpoints] s' _ none :=
    .passed (.refl s') .dropSeries (Or.inl rfl) (.single .setEndpoints (by decide))
  rw [figures]
  simpa using Passage.passed started (.push push) (Or.inr rfl) recorded

theorem outdated_of_same {last : Option Snapshot}
    (same : MaterialKey.of last = MaterialKey.of (some snapshot)) :
    Session.outdated last snapshot = [] := by
  simp [Session.outdated, Session.outdatedCertificate, Session.outdatedDhParam, same]

/-- Up to the routing a reconciliation looks at the certificates and brings the material in step. -/
theorem synced_passage (artifact : String) {result : Except Failure Unit}
    (sync : (s.observeCertificates snapshot).syncMaterial c settings.store r.applied.snapshot
      snapshot = (s', result)) : ∃ reached, Passage c settings r snapshot artifact
        ([.expiry, .info] ++ (Session.outdated r.applied.snapshot snapshot).filterMap Stage.of?)
        reached s s' (failureOf id result) := by
  obtain ⟨reached, passage⟩ := material_passage sync
  exact ⟨_, observed_passage.append passage⟩

/-- A reconciliation that pushes reaches all that was planned. -/
theorem pushed_passage {reloaded : Bool} {result : Except ControlError Unit}
    (news : r.isStale snapshot = false)
    (sync : (s.observeCertificates snapshot).syncMaterial c settings.store r.applied.snapshot
      snapshot = (s₁, .ok ()))
    (differs : r.isUnchanged snapshot = false)
    (prepared : Prepared c settings r snapshot s₁ reloaded s₂)
    (push : (r.beforePush settings s₂).push c settings.backoff snapshot.structural
      r.applied.dynamic = (s', result)) :
    ∃ artifact, Passage c settings r snapshot artifact (r.plan snapshot) (r.plan snapshot) s
        { s' with actions := s'.actions ++ r.pushFigures snapshot } (failureOf .dynamicPush result) ∧
      [.push, .dropSeries, .setEndpoints] <:+ r.plan snapshot := by
  -- the artifact of the reload is the one that all parts of the passage are about
  obtain ⟨artifact, loaded, loading⟩ := prepared_passage prepared
  obtain ⟨synced, syncing⟩ := synced_passage artifact sync
  have whole := syncing.append (loading.append (push_passage push))
  rw [syncing.complete, loading.complete] at whole
  rw [plan, if_neg (by simp [news]), if_neg (by simp [differs])]
  refine ⟨artifact, whole, ?_⟩
  rw [← List.append_assoc]
  exact List.suffix_append _ _

/-- What a reconciliation that reached some stages says of them by its outcome. -/
structure Ends (r : Reconciler) (snapshot : Snapshot) (reached : List Stage) (kind : OutcomeKind) :
    Prop where
  last : reached.getLast? = kind.last?
  complete : kind.isApplied = true → reached = r.plan snapshot
  pushes : kind.isApplied = true → kind ≠ .noChange →
    [.push, .dropSeries, .setEndpoints] <:+ reached

theorem Ends.of_pushed {kind : OutcomeKind} (last : kind.last? = some .setEndpoints)
    (pushes : [.push, .dropSeries, .setEndpoints] <:+ r.plan snapshot) :
    Ends r snapshot (r.plan snapshot) kind := by
  refine ⟨?_, fun _ => rfl, fun _ _ => pushes⟩
  obtain ⟨front, whole⟩ := pushes
  rw [← whole, last, List.getLast?_append]
  rfl

theorem Ends.of_notApplied {kind : OutcomeKind} (last : reached.getLast? = kind.last?)
    (notApplied : kind.isApplied = false) : Ends r snapshot reached kind := by
  refine ⟨last, fun isApplied => ?_, fun isApplied => ?_⟩ <;>
    exact absurd isApplied (by simp [notApplied])

/-- **Every reconciliation is a passage of its plan**, and the kind of its outcome tells where it ended. -/
theorem reconcile_passage {r' : Reconciler} {o : Outcome}
    (h : Course c settings r s snapshot r' s' o) : ∃ artifact reached,
      Passage c settings r snapshot artifact (r.plan snapshot) reached s s' o.error ∧
        Ends r snapshot reached o.kind := by
  cases h with
  | stale old =>
    rw [plan, if_pos old]
    exact ⟨"", [], .done (.refl s), .of_notApplied rfl rfl⟩
  | @unsynced s₁ e news sync =>
    obtain ⟨reached, passage⟩ := synced_passage "" sync
    have noPush : .push ∉ [.expiry, .info] ++
        (Session.outdated r.applied.snapshot snapshot).filterMap Stage.of? := by
      simpa using outdated_noPush r.applied.snapshot snapshot
    obtain ⟨n, last, kind⟩ := passage.last? noPush
    rw [plan, if_neg (by simp [news])]
    exact ⟨"", reached, (passage.append_of_failed noPush _).before (.of_actions s₁ rfl),
      .of_notApplied (last.trans kind.symm) (notApplied_of_unsynced sync)⟩
  | unchanged news sync same =>
    -- an unchanged snapshot has the same material, so the plan ends with the figures
    have nothing := outdated_of_same (material_of_quiet (calls_of_unchanged same))
    have planned : r.plan snapshot = [.expiry, .info] := by
      rw [plan, if_neg (by simp [news]), if_pos same, nothing]
      rfl
    obtain ⟨reached, passage⟩ := synced_passage "" sync
    rw [nothing] at passage
    have whole : reached = [.expiry, .info] := passage.complete
    rw [whole] at passage
    rw [planned]
    exact ⟨"", [.expiry, .info], passage, rfl, fun _ => planned.symm, fun _ differs => absurd rfl differs⟩
  | @unloaded s₁ s₂ e news sync calls load =>
    obtain ⟨artifact, loaded, loading⟩ := reload_passage (r := r) load
    obtain ⟨synced, syncing⟩ := synced_passage artifact sync
    -- the stage that failed is one of the reload, and it is the last one of the whole passage
    have noPush : .push ∉ [Stage.render, .dryRun, .write, .signal] := by decide
    obtain ⟨n, last, kind⟩ := loading.last? noPush
    have differs : r.isUnchanged snapshot = false :=
      Bool.eq_false_iff.mpr fun same => by simp [calls_of_unchanged same] at calls
    obtain ⟨s₃, course, _⟩ := Session.reloadAndReport_error load
    rw [plan, if_neg (by simp [news]), if_neg (by simp [differs]), if_pos calls]
    refine ⟨artifact, _, syncing.append (loading.append_of_failed noPush _), .of_notApplied ?_
      (notApplied_of_unloaded course)⟩
    rw [List.getLast?_append, last]
    exact kind.symm
  | pushed news sync differs prepared push =>
    obtain ⟨artifact, passage, pushes⟩ := pushed_passage news sync differs prepared push
    exact ⟨artifact, _, passage, .of_pushed rfl pushes⟩
  | @unpushed s₁ s₂ s₃ reloaded e news sync differs prepared push =>
    obtain ⟨artifact, passage, pushes⟩ := pushed_passage news sync differs prepared push
    rw [← List.append_assoc]
    exact ⟨artifact, _, passage.before (.of_actions _ rfl), .of_pushed rfl pushes⟩

/-- A snapshot that is not newer leaves the whole session as it was, and one that calls for nothing adds to
it what the certificates are. -/
theorem Course.idle {r' : Reconciler} {o : Outcome} (h : Course c settings r s snapshot r' s' o) :
    (o.kind = .staleSnapshot → s' = s) ∧
      (o.kind = .noChange → s' = s.observeCertificates snapshot) := by
  cases h with
  | stale old => exact ⟨fun _ => rfl, by simp [quiet]⟩
  | unsynced news sync =>
    rcases (Session.syncMaterial_error sync).1 with kind | kind <;> simp [failed, kind]
  | unchanged news sync same =>
    exact ⟨by simp [quiet], fun _ => ((Course.unchanged news sync same).of_unchanged news same).2.1⟩
  | unloaded news sync calls load =>
    obtain ⟨s₃, course, _⟩ := Session.reloadAndReport_error load
    rcases course.failure with kind | kind | kind | kind <;> simp [failed, kind]
  | pushed => simp [taken]
  | unpushed => simp [untaken, failed, Failure.kind]

/-! ## The stages of a call -/

/-- The stages that the actions of a call belong to. -/
def Call.stages (k : Call σ) : List Stage := k.actions.filterMap Stage.of?

/-- A call keeps the discipline of the stages, and these are the ones that it reached. -/
structure Call.Disciplined (c : Collaborators σ) (settings : ReconcilerSettings) (k : Call σ)
    (reached : List Stage) : Prop where
  /-- One stage behind the other, none of them behind a failure but for the figures of the push. -/
  passage : ∃ artifact, Passage c settings k.before.1 k.snapshot artifact
    (k.before.1.plan k.snapshot) reached k.before.2 k.after.2 k.outcome.error
  planned : reached <+: k.before.1.plan k.snapshot
  ordered : (k.before.1.plan k.snapshot).Sublist Stage.all
  /-- The actions are those of the stages, and each stage has one, but for the attempts of the push. -/
  shown : ∃ attempts, 0 < attempts ∧ k.stages = Stage.tried attempts reached
  last : reached.getLast? = k.outcome.kind.last?
  /-- In particular nothing is done beyond the stages of the kind. -/
  within : reached.Sublist k.outcome.kind.stages ∧ ∀ n ∈ k.stages, n ∈ k.outcome.kind.stages
  stale : k.outcome.kind = .staleSnapshot → k.after.2 = k.before.2
  noChange : k.outcome.kind = .noChange → k.after.2 = k.before.2.observeCertificates k.snapshot
  complete : k.outcome.kind.isApplied = true → reached = k.before.1.plan k.snapshot
  figures : k.outcome.kind.isApplied = true → k.outcome.kind ≠ .noChange →
    k.stages.count .dropSeries = 1 ∧ k.stages.count .setEndpoints = 1

/-- **Every call keeps the discipline of the stages**, whatever state it finds and whatever the
collaborators answer. -/
theorem call_disciplined (c : Collaborators σ) (settings : ReconcilerSettings)
    (p : Reconciler × Session σ) (x : Snapshot) :
    ∃ reached, (callOf c settings p x).Disciplined c settings reached := by
  have course := callOf_course c settings p x
  obtain ⟨artifact, reached, passage, ends⟩ := reconcile_passage course
  have ordered := passage.isPrefix.sublist.trans (plan_sublist p.1 x)
  have once : reached.Nodup := ordered.nodup (by decide)
  obtain ⟨attempts, some, sees⟩ := passage.sees once
  have shown : (callOf c settings p x).stages = Stage.tried attempts reached :=
    Call.filterMap_actions sees
  have within : reached.Sublist (callOf c settings p x).outcome.kind.stages := by
    rw [OutcomeKind.stages, ← ends.last]
    cases last : reached.getLast? with
    | none => simp [List.getLast?_eq_none_iff.mp last]
    | some n => exact Stage.sublist_upTo ordered last
  refine ⟨reached, ⟨artifact, passage⟩, passage.isPrefix, plan_sublist p.1 x, ⟨attempts, some, shown⟩,
    ends.last, ⟨within, fun n hn => ?_⟩, course.idle.1, course.idle.2, ends.complete,
    fun isApplied differs => ?_⟩
  · rw [shown] at hn
    exact within.subset (Stage.mem_of_mem_tried hn)
  · have pushes := (ends.pushes isApplied differs).subset
    rw [shown]
    exact ⟨Stage.count_tried attempts once (pushes (by simp)) (by decide),
      Stage.count_tried attempts once (pushes (by simp)) (by decide)⟩

/-- The first server takes all stages but those of the material. -/
example : (callOf Script.collaborators sampleSettings (start, opening {})
    { generation := 1, servers := [{ hostname := "a.example", port := 80 }] }).stages =
      [.expiry, .info, .render, .dryRun, .write, .signal, .push, .dropSeries, .setEndpoints] := by
  decide +kernel

end IngressControl.Reconciler
