import IngressControl.Proofs.Reconciler.History
import Mathlib.Data.List.Forall2

/-!
# The reports account for every outcome

A reconciliation reports in four ways. Two counters tell how many reloads worked and how many failed, a
gauge the configuration that was tried last and whether it works, events what a watcher should know, and
the outcome all of it to the caller. They are written at different points of its way, and a call can
reload the proxy and fail behind that, so it may have two things to report.

That they agree rests on one fact: what a call reports is a function of its outcome, down to the order
(`Outcome.report`, `Course.reports`). All that is counted over a run is counted over its outcomes then.
-/

namespace IngressControl

namespace OutcomeKind

/-- A reload was called for and did not work. -/
def isReloadFailure : OutcomeKind → Bool
  | .renderFailed => true
  | .validationFailed => true
  | .artifactWriteFailed => true
  | .reloadSignalFailed => true
  | _ => false

def isFailure : OutcomeKind → Bool
  | .success => false
  | .noChange => false
  | .staleSnapshot => false
  | _ => true

end OutcomeKind

namespace Failure

/-- What stands before the text of a failure in its warning. -/
def heading (e : Failure) : String :=
  if e.kind.isReloadFailure then "Error reloading proxy: "
  else if e.kind = .dynamicPushFailed then "Unexpected failure reconfiguring proxy: "
  else ""

def report (fingerprint : Fingerprint) (e : Failure) : List Action :=
  (if e.kind.isReloadFailure then [.countReloadError, .recordConfiguration fingerprint false] else []) ++
    [.send (.warning (e.heading ++ e.message))]

end Failure

namespace Outcome

/-- What is reported of an outcome. A reload that worked comes first, as the push stands behind it. -/
def report (o : Outcome) : List Action :=
  (if o.reloaded then [.recordConfiguration o.fingerprint true, .countReload, .send .reloaded] else []) ++
    o.error.elim [] (Failure.report o.fingerprint)

/-- An outcome carries an error just when its kind is that of a failure, and it is that failure. -/
structure Sound (o : Outcome) : Prop where
  carries : o.error.isSome = o.kind.isFailure
  kind : ∀ e, o.error = some e → e.kind = o.kind
  /-- No reload both worked and failed. -/
  apart : o.reloaded = true → o.kind.isReloadFailure = false

end Outcome

/-- The action, if it is a report. -/
def report? : Action → Option Action
  | .recordConfiguration fingerprint works => some (.recordConfiguration fingerprint works)
  | .countReload => some .countReload
  | .countReloadError => some .countReloadError
  | .send event => some (.send event)
  | _ => none

/-- The event that an action sends. -/
def sent? : Action → Option Event
  | .send event => some event
  | _ => none

/-- The configuration that an action records, and whether it works. -/
def recorded? : Action → Option (Fingerprint × Bool)
  | .recordConfiguration fingerprint works => some (fingerprint, works)
  | _ => none

namespace Reconciler

variable {σ : Type} {c : Collaborators σ} {settings : ReconcilerSettings} {snapshot : Snapshot}

/-! ## One reconciliation -/

section

variable {r r' : Reconciler} {s s' : Session σ} {o : Outcome}

/-- Up to the routing nothing is reported. -/
theorem sync_unreported {last : Option Snapshot} {e : Except Failure Unit}
    (sync : (s.observeCertificates snapshot).syncMaterial c settings.store last snapshot = (s', e)) :
    Session.Sees report? s s' [] := by
  refine Session.syncMaterial_sees (fun _ => ⟨rfl, rfl⟩) (fun a p hp => ?_) sync
  cases a <;> simp [Session.piece?, report?] at hp ⊢

theorem loading_unreported {reason : ReloadReason} {e : Except Failure Unit}
    (h : Session.Loading c settings snapshot (s.record (.decideReload reason)) s' e) :
    Session.Sees report? s s' [] := by
  have decided : Session.Sees report? s (s.record (.decideReload reason)) [] :=
    (Session.Sees.of_same rfl).record rfl
  have loading : Session.Sees report? (s.record (.decideReload reason)) s' [] := by
    refine h.sees_nothing fun a reload => ?_
    cases a <;> simp [Session.ofReload, report?] at reload ⊢
  exact decided.trans loading

/-- Before a push nothing is reported but the reload, if there was one. -/
theorem prepared_reports {reloaded : Bool} (h : Prepared c settings r snapshot s reloaded s') :
    Session.Sees report? s s' (if reloaded then Session.loadedReport snapshot else []) := by
  cases h with
  | running calls => exact .of_same rfl
  | reloaded calls load =>
    obtain ⟨s₁, course, rfl⟩ := Session.reloadAndReport_ok load
    have reported : Session.Sees report? s₁ { s₁ with
        actions := s₁.actions ++ Session.loadedReport snapshot } (Session.loadedReport snapshot) :=
      ⟨_, rfl, rfl⟩
    exact (loading_unreported course).trans reported

/-- **What a reconciliation reports is told by its outcome**, whatever course it took. -/
theorem Course.reports (h : Course c settings r s snapshot r' s' o) :
    Session.Sees report? s s' o.report := by
  cases h with
  | stale old => exact .of_same rfl
  | @unsynced s₁ e news sync =>
    have warned : Session.Sees report? s₁ (s₁.record (.send (.warning e.message)))
        [.send (.warning e.message)] := ⟨_, rfl, rfl⟩
    have told : (failed snapshot e).report = [.send (.warning e.message)] := by
      rcases (Session.syncMaterial_error sync).1 with kind | kind <;>
        simp [failed, Outcome.report, Failure.report, Failure.heading, kind,
          OutcomeKind.isReloadFailure]
    rw [told]
    exact (sync_unreported sync).trans warned
  | unchanged news sync same => exact sync_unreported sync
  | @unloaded s₁ s₂ e news sync calls load =>
    obtain ⟨s₂, course, rfl⟩ := Session.reloadAndReport_error load
    have warned : Session.Sees report? s₂ { s₂ with
        actions := s₂.actions ++ Session.unloadedReport snapshot e }
        (Session.unloadedReport snapshot e) := ⟨_, rfl, rfl⟩
    have told : (failed snapshot e).report = Session.unloadedReport snapshot e := by
      rcases course.failure with kind | kind | kind | kind <;>
        simp [failed, Outcome.report, Failure.report, Failure.heading, kind,
          OutcomeKind.isReloadFailure, Session.unloadedReport]
    rw [told]
    exact (sync_unreported sync).trans ((loading_unreported course).trans warned)
  | @pushed s₁ s₂ s₃ reloaded news sync differs prepared push =>
    have told : (r.taken snapshot reloaded).report =
        if reloaded then Session.loadedReport snapshot else [] := by
      cases reloaded <;> rfl
    have silent : (r.pushFigures snapshot).filterMap report? = [] := rfl
    have quiet := (push_quiet (fun _ => rfl) rfl silent push).1
    rw [told]
    simpa using ((sync_unreported sync).trans (prepared_reports prepared)).trans quiet
  | @unpushed s₁ s₂ s₃ reloaded e news sync differs prepared push =>
    have told : (r.untaken snapshot reloaded e).report =
        (if reloaded then Session.loadedReport snapshot else []) ++ [pushWarning e] := by
      cases reloaded <;> rfl
    have silent : (r.pushFigures snapshot).filterMap report? = [] := rfl
    have quiet := (push_quiet (fun _ => rfl) rfl silent push).1
    have warned : Session.Sees report?
        { s₃ with actions := s₃.actions ++ r.pushFigures snapshot }
        { s₃ with actions := s₃.actions ++ (r.pushFigures snapshot ++ [pushWarning e]) }
        [pushWarning e] := ⟨[pushWarning e], by simp, rfl⟩
    rw [told]
    simpa using (((sync_unreported sync).trans (prepared_reports prepared)).trans quiet).trans warned

theorem Course.sound (h : Course c settings r s snapshot r' s' o) : o.Sound := by
  -- a failure gives its own kind to the outcome
  have carried : ∀ {e : Failure}, e.kind.isFailure = true := by
    intro e
    cases e <;> rfl
  have alone : ∀ {e : Failure}, (failed snapshot e).Sound := by
    intro e
    refine ⟨carried.symm, fun e' found => ?_, fun reloaded => ?_⟩
    · cases found
      rfl
    · cases reloaded
  cases h with
  | stale old => exact ⟨rfl, by simp [quiet], fun _ => rfl⟩
  | unsynced news sync => exact alone
  | unchanged news sync same => exact ⟨rfl, by simp [quiet], fun _ => rfl⟩
  | unloaded news sync calls load => exact alone
  | pushed news sync differs prepared push => exact ⟨rfl, by simp [taken], fun _ => rfl⟩
  | unpushed news sync differs prepared push =>
    refine ⟨rfl, fun e' found => ?_, fun _ => rfl⟩
    cases found
    rfl

end

/-! ## Whole runs -/

/-- The reports among some actions account for some outcomes. -/
structure Accounts (actions : List Action) (outcomes : List Outcome) : Prop where
  reloads : actions.count .countReload = outcomes.countP (·.reloaded)
  normal : (actions.filterMap sent?).countP (·.kind = .normal) = outcomes.countP (·.reloaded)
  reloadErrors : actions.count .countReloadError = outcomes.countP (·.kind.isReloadFailure)
  configurations : actions.filterMap recorded? =
    (outcomes.filter fun o => o.reloaded || o.kind.isReloadFailure).map
      fun o => (o.fingerprint, o.reloaded)
  /-- One warning for each outcome with an error, in their order, and with its text. -/
  warnings : List.Forall₂ (fun event e => ∃ heading, event.message = heading ++ e.message)
    ((actions.filterMap sent?).filter (·.kind = .warning)) (outcomes.filterMap (·.error))
  sound : ∀ o ∈ outcomes, o.Sound

namespace Accounts

variable {actions actions' : List Action} {outcomes outcomes' : List Outcome} {o : Outcome}

theorem nil : Accounts [] [] := ⟨rfl, rfl, rfl, rfl, .nil, by simp⟩

theorem append (h : Accounts actions outcomes) (h' : Accounts actions' outcomes') :
    Accounts (actions ++ actions') (outcomes ++ outcomes') := by
  refine ⟨?_, ?_, ?_, ?_, ?_, fun o ho => ?_⟩
  · rw [List.count_append, h.reloads, h'.reloads, List.countP_append]
  · rw [List.filterMap_append, List.countP_append, h.normal, h'.normal, List.countP_append]
  · rw [List.count_append, h.reloadErrors, h'.reloadErrors, List.countP_append]
  · rw [List.filterMap_append, h.configurations, h'.configurations, List.filter_append,
      List.map_append]
  · rw [List.filterMap_append, List.filter_append, List.filterMap_append]
    exact List.rel_append h.warnings h'.warnings
  · rcases List.mem_append.mp ho with ho | ho
    · exact h.sound o ho
    · exact h'.sound o ho

/-- All that is counted is counted among the reports. -/
theorem of_reports (h : Accounts (actions.filterMap report?) outcomes) : Accounts actions outcomes := by
  have counted : ∀ a : Action, report? a = some a →
      (actions.filterMap report?).count a = actions.count a := by
    intro a ha
    rw [List.count_eq_countP, List.countP_filterMap, List.count_eq_countP]
    refine List.countP_congr fun b _ => ?_
    cases b <;> simp [report?] <;> rintro rfl <;> simp [report?] at ha
  have sent : (actions.filterMap report?).filterMap sent? = actions.filterMap sent? := by
    rw [List.filterMap_filterMap]
    exact List.filterMap_congr fun a _ => by cases a <;> rfl
  have recorded : (actions.filterMap report?).filterMap recorded? = actions.filterMap recorded? := by
    rw [List.filterMap_filterMap]
    exact List.filterMap_congr fun a _ => by cases a <;> rfl
  obtain ⟨reloads, normal, reloadErrors, configurations, warnings, sound⟩ := h
  rw [counted _ rfl] at reloads reloadErrors
  rw [sent] at normal warnings
  rw [recorded] at configurations
  exact ⟨reloads, normal, reloadErrors, configurations, warnings, sound⟩

/-- The report of an outcome accounts for it. -/
theorem of_sound (sound : o.Sound) : Accounts o.report [o] := by
  have alone : ∀ x ∈ [o], x.Sound := by simpa using sound
  obtain ⟨carries, same, apart⟩ := sound
  cases error : o.error with
  | none =>
    have worked : o.kind.isReloadFailure = false := by
      rw [error] at carries
      cases kind : o.kind <;> simp [kind, OutcomeKind.isFailure] at carries <;> rfl
    cases reloaded : o.reloaded <;> refine ⟨?_, ?_, ?_, ?_, ?_, alone⟩ <;>
      simp [Outcome.report, error, reloaded, worked, List.filterMap_cons, sent?, recorded?,
        Event.reloaded]
  | some e =>
    have kind : o.kind = e.kind := (same e error).symm
    rw [kind] at apart
    cases failed : e.kind.isReloadFailure with
    | true =>
      -- the reload is the one that failed, so the warning is all that is sent
      have reloaded : o.reloaded = false := by
        refine Bool.eq_false_iff.mpr fun reloaded => ?_
        simp [apart reloaded] at failed
      refine ⟨?_, ?_, ?_, ?_, ?_, alone⟩ <;>
        simp [Outcome.report, Failure.report, error, kind, reloaded, failed, List.filterMap_cons,
          sent?, recorded?, Event.warning]
    | false =>
      cases reloaded : o.reloaded <;> refine ⟨?_, ?_, ?_, ?_, ?_, alone⟩ <;>
        simp [Outcome.report, Failure.report, error, kind, reloaded, failed, List.filterMap_cons,
          sent?, recorded?, Event.warning, Event.reloaded]

end Accounts

theorem callOf_accounts (c : Collaborators σ) (settings : ReconcilerSettings)
    (p : Reconciler × Session σ) (x : Snapshot) :
    ∃ actions, (callOf c settings p x).after.2.actions = p.2.actions ++ actions ∧
      Accounts actions [(callOf c settings p x).outcome] := by
  have course := callOf_course c settings p x
  obtain ⟨actions, acts, reports⟩ := course.reports
  refine ⟨actions, acts, .of_reports ?_⟩
  rw [reports]
  exact .of_sound course.sound

/-- **Every outcome is accounted for.** Over any run, whatever the collaborators answer, the reloads that
are counted and the normal events are the outcomes that tell of a reload, the reload errors those whose
reload has failed, the configurations recorded both in their order, and the warnings the outcomes that
carry an error, each with its text. An outcome carries an error just when its kind is that of a failure,
and it is the failure of that kind. -/
theorem outcomes_accounted (c : Collaborators σ) (settings : ReconcilerSettings) :
    ∀ (xs : List Snapshot) (p : Reconciler × Session σ), ∃ actions,
      (run c settings xs p).2.1.actions = p.2.actions ++ actions ∧
        Accounts actions (run c settings xs p).2.2 := by
  intro xs
  induction xs with
  | nil => exact fun p => ⟨[], (List.append_nil _).symm, .nil⟩
  | cons x rest ih =>
    intro p
    obtain ⟨first, acts, accounts⟩ := callOf_accounts c settings p x
    obtain ⟨later, acts', accounts'⟩ := ih (callOf c settings p x).after
    refine ⟨first ++ later, ?_, accounts.append accounts'⟩
    have step : (run c settings (x :: rest) p).2.1 =
        (run c settings rest (callOf c settings p x).after).2.1 := rfl
    rw [step, acts', acts, List.append_assoc]

end Reconciler

end IngressControl
