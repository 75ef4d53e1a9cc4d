import IngressControl.Proofs.AtomicApplication
import IngressControl.Proofs.Reconciler.Attempts
import IngressControl.Proofs.ReloadDecision

/-!
# Recovery and rest

Whatever failed before, one snapshot that meets no failure repairs it: behind its call the memory is that
of the snapshot and nothing else, as if it had been the first one. `Unhindered` says what has to go well,
as far as the call comes to it: the material is stored, the proxy reloaded where that is called for, and
one of the attempts of the push accepted. A call without anything to do pushes nothing; that its snapshot
is then what the control surface took is known by fingerprint, so no two configurations may share one.

From there the reconciler is at rest. The same snapshot under a later generation passes each of its
comparisons, so all that is left of the call is the new generation and the figures of the certificates.
-/

namespace IngressControl

/-- The same snapshot under another generation. -/
def Snapshot.renewed (s : Snapshot) (generation : Int64) : Snapshot := { s with generation }

/-- What is remembered of a snapshot that was applied and pushed. -/
def Applied.of (s : Snapshot) : Applied := ⟨some s, s.structural⟩

namespace Reconciler

variable {σ : Type} {c : Collaborators σ} {settings : ReconcilerSettings} {r r' : Reconciler}
  {s s' s₁ s₂ s₃ : Session σ} {snapshot : Snapshot} {o : Outcome}

/-! ## A call that meets no failure -/

/-- No failure meets a snapshot on its way. -/
inductive Unhindered (c : Collaborators σ) (settings : ReconcilerSettings) (r : Reconciler)
    (s : Session σ) (snapshot : Snapshot) : Prop
  | unchanged {s₁ : Session σ}
      (sync : (s.observeCertificates snapshot).syncMaterial c settings.store r.applied.snapshot
        snapshot = (s₁, .ok ()))
      (same : r.isUnchanged snapshot = true)
  | pushed {s₁ s₂ : Session σ} {reloaded : Bool} {n : Nat}
      (sync : (s.observeCertificates snapshot).syncMaterial c settings.store r.applied.snapshot
        snapshot = (s₁, .ok ()))
      (prepared : Prepared c settings r snapshot s₁ reloaded s₂)
      (allowed : n < max 1 settings.backoff.steps.toNat)
      (accepted : Session.Accepted c settings.backoff snapshot.structural r.applied.dynamic n 0
        (r.beforePush settings s₂))

/-- There is one way only to get ready for a push. -/
theorem Prepared.session_eq {reloaded reloaded' : Bool}
    (h : Prepared c settings r snapshot s₁ reloaded s₂)
    (h' : Prepared c settings r snapshot s₁ reloaded' s₃) : s₂ = s₃ := by
  cases h with
  | reloaded calls load =>
    cases h' with
    | reloaded calls' load' => exact congrArg Prod.fst (load.symm.trans load')
    | running calls' => simp [calls] at calls'
  | running calls =>
    cases h' with
    | reloaded calls' load' => simp [calls] at calls'
    | running calls' => rfl

theorem Unhindered.synced (free : Unhindered c settings r s snapshot) :
    ((s.observeCertificates snapshot).syncMaterial c settings.store r.applied.snapshot
      snapshot).2 = .ok () := by
  cases free with
  | unchanged sync same => rw [sync]
  | pushed sync prepared allowed accepted => rw [sync]

/-- Where a reload is called for, it works. -/
theorem Unhindered.loaded (free : Unhindered c settings r s snapshot)
    (sync : (s.observeCertificates snapshot).syncMaterial c settings.store r.applied.snapshot
      snapshot = (s₁, .ok ()))
    (calls : (r.reason snapshot).calls = true) :
    (s₁.reloadAndReport c settings snapshot (r.reason snapshot)).2 = .ok () := by
  cases free with
  | unchanged sync' same => simp [calls_of_unchanged same] at calls
  | pushed sync' prepared allowed accepted =>
    cases sync.symm.trans sync'
    cases prepared with
    | reloaded calls' load => rw [load]
    | running calls' => simp [calls] at calls'

/-- Where there is anything to push, it is taken. -/
theorem Unhindered.taken {reloaded : Bool} (free : Unhindered c settings r s snapshot)
    (sync : (s.observeCertificates snapshot).syncMaterial c settings.store r.applied.snapshot
      snapshot = (s₁, .ok ()))
    (differs : r.isUnchanged snapshot = false)
    (prepared : Prepared c settings r snapshot s₁ reloaded s₂) :
    ((r.beforePush settings s₂).push c settings.backoff snapshot.structural r.applied.dynamic).2 =
      .ok () := by
  cases free with
  | unchanged sync' same => simp [differs] at same
  | pushed sync' prepared' allowed accepted =>
    cases sync.symm.trans sync'
    cases prepared.session_eq prepared'
    exact Session.push_ok_iff.mpr ⟨_, allowed, accepted⟩

theorem Course.recovers (h : Course c settings r s snapshot r' s' o)
    (news : r.isStale snapshot = false) (free : Unhindered c settings r s snapshot) :
    o.kind = .success ∨ o.kind = .noChange := by
  cases h with
  | stale old => simp [old] at news
  | unsynced news sync => simpa [sync] using free.synced
  | unchanged news sync same => exact Or.inr rfl
  | unloaded news sync calls load => simpa [load] using free.loaded sync calls
  | pushed news sync differs prepared push => exact Or.inl rfl
  | unpushed news sync differs prepared push => simpa [push] using free.taken sync differs prepared

/-! ## The reconciler at rest -/

/-- With the memory of a snapshot there is nothing to do for it under another generation. -/
theorem isUnchanged_renewed {x : Snapshot} (applied : r.applied = .of x) (generation : Int64) :
    r.isUnchanged (x.renewed generation) = true := by
  have same : (r.baseline (x.renewed generation)).SameLayer (x.renewed generation) := by
    rw [baseline, applied]
    exact ⟨rfl, rfl, rfl, rfl, rfl, rfl, rfl⟩
  have calls : (r.reason (x.renewed generation)).calls = false :=
    Bool.eq_false_iff.mpr fun calls => (calls_iff _ _).mp calls same
  rw [isUnchanged, calls, inSync, applied]
  simp [Applied.of, Applied.configuration, Snapshot.renewed, Snapshot.structural]

/-- A call with nothing to do takes over its snapshot, and records the figures of the certificates of `x`
and nothing else. -/
structure Call.Idles (k : Call σ) (x : Snapshot) : Prop where
  outcome : k.outcome = quiet .noChange k.snapshot
  applied : k.after.1.applied = .of k.snapshot
  advances : ∃ g, k.before.1.appliedGeneration = some g ∧ g < k.snapshot.generation ∧
    k.after.1.appliedGeneration = some k.snapshot.generation
  session : k.after.2 = k.before.2.observeCertificates x
  actions : k.actions = [.setCertificateExpiry x.servers, .setCertificateInfo x.servers]

theorem callOf_renewed (c : Collaborators σ) (settings : ReconcilerSettings)
    {p : Reconciler × Session σ} {x : Snapshot} {g : Int64} (applied : p.1.applied = .of x)
    (newer : x.generation < g) :
    (callOf c settings p (x.renewed g)).Idles x := by
  have news : p.1.isStale (x.renewed g) = false := by
    rw [isStale, applied]
    exact decide_eq_false (Int64.not_le.mpr newer)
  obtain ⟨memory, session, outcome⟩ :=
    (callOf_course c settings p (x.renewed g)).of_unchanged news (isUnchanged_renewed applied g)
  refine ⟨outcome, by rw [memory, applied]; rfl, ⟨x.generation, ?_, newer, ?_⟩, session, ?_⟩
  · rw [callOf_before, appliedGeneration, applied]
    rfl
  · rw [appliedGeneration, memory]
    rfl
  · rw [Call.actions, session]
    simp [Session.observeCertificates, Session.record, Snapshot.renewed]

/-- All calls idle that hand in one snapshot again and again, under ever later generations. -/
theorem history_renewed (c : Collaborators σ) (settings : ReconcilerSettings) :
    ∀ (generations : List Int64) {x : Snapshot} {p : Reconciler × Session σ},
    p.1.applied = .of x → (x.generation :: generations).IsChain (· < ·) →
      (∀ k ∈ history c settings (generations.map x.renewed) p, k.Idles x) ∧
        (reached c settings (generations.map x.renewed) p).1.applied =
          .of (x.renewed (generations.getLast?.getD x.generation)) := by
  intro generations
  induction generations with
  | nil => exact fun applied _ => ⟨by simp [history], applied⟩
  | cons g rest ih =>
    intro x p applied chain
    obtain ⟨newer, later⟩ := List.isChain_cons_cons.mp chain
    have first := callOf_renewed c settings applied newer
    obtain ⟨idles, last⟩ := ih (x := x.renewed g) first.applied later
    refine ⟨fun k hk => ?_, ?_⟩
    · rcases List.mem_cons.mp hk with rfl | behind
      · exact first
      · -- the certificates are the same under all generations
        obtain ⟨outcome, applied, advances, session, actions⟩ := idles k behind
        exact ⟨outcome, applied, advances, session, actions⟩
    · rw [List.getLast?_cons]
      exact last

/-- **Every failure is recovered from, and what is recovered stays at rest.** In any state that a run can
reach, a newer snapshot that meets no failure succeeds or has nothing to do, and the memory is its own
then, whatever came before. Handed in again under ever later generations it has nothing to do each time:
the generation advances, and nothing is written, told to the proxy, pushed or sent. -/
theorem recovers_and_rests (c : Collaborators σ) (settings : ReconcilerSettings) (s₀ : Session σ)
    {xs : List Snapshot} {x : Snapshot} (distinguished : Distinguished (configurations (xs ++ [x])))
    (newer : ∀ g, (reached c settings xs (start, s₀)).1.appliedGeneration = some g →
      g < x.generation)
    (free : Unhindered c settings (reached c settings xs (start, s₀)).1
      (reached c settings xs (start, s₀)).2 x) :
    ((callOf c settings (reached c settings xs (start, s₀)) x).outcome.kind = .success ∨
        (callOf c settings (reached c settings xs (start, s₀)) x).outcome.kind = .noChange) ∧
      (reached c settings (xs ++ [x]) (start, s₀)).1.applied = .of x ∧
      ∀ generations : List Int64, (x.generation :: generations).IsChain (· < ·) →
        (∀ k ∈ history c settings (generations.map x.renewed)
          (reached c settings (xs ++ [x]) (start, s₀)), k.Idles x) ∧
        (reached c settings (xs ++ x :: generations.map x.renewed) (start, s₀)).1.applied =
          .of (x.renewed (generations.getLast?.getD x.generation)) := by
  have news : (reached c settings xs (start, s₀)).1.isStale x = false :=
    (isStale_eq_false_iff _ x).mpr fun last found => newer _ (by rw [appliedGeneration, found]; rfl)
  have kind := (callOf_course c settings (reached c settings xs (start, s₀)) x).recovers news free
  have handed : ∀ y ∈ xs ++ [x], y.structural ∈ configurations (xs ++ [x]) :=
    fun y hy => List.mem_map_of_mem hy
  have whole := callOf_atomic c settings s₀ distinguished
    (fun y hy => handed y (List.mem_append_left _ hy)) (handed x (by simp))
  have applied : (reached c settings (xs ++ [x]) (start, s₀)).1.applied = .of x := by
    rw [reached_snoc]
    cases whole with
    | left notApplied same nothing =>
      rcases kind with kind | kind <;> simp [kind, OutcomeKind.isApplied] at notApplied
    | moved isApplied new drops base =>
      have taken : baseBehind
          (callOf c settings (reached c settings xs (start, s₀)) x).outcome.kind x =
            x.structural := by
        rcases kind with kind | kind <;> simp [kind, baseBehind]
      rw [taken] at base
      exact congrArg₂ Applied.mk new base
  refine ⟨kind, applied, fun generations chain => ?_⟩
  obtain ⟨idles, last⟩ := history_renewed c settings generations applied chain
  refine ⟨idles, ?_⟩
  have onwards : reached c settings (xs ++ x :: generations.map x.renewed) (start, s₀) =
      reached c settings (generations.map x.renewed) (reached c settings (xs ++ [x]) (start, s₀)) := by
    rw [List.append_cons, reached, List.foldl_append]
    rfl
  rw [onwards, last]

/-- Two attempts for each push, of which the first three of a run are refused. -/
def persistent : ReconcilerSettings :=
  { sampleSettings with backoff := { sampleSettings.backoff with steps := 2 } }

def refusedThrice : Script where
  pushes := [some (.other "refused"), some (.other "refused"), some (.other "refused")]

/-- What stands behind the call whose attempts were both refused. -/
def behindRefused : Reconciler × Session Script :=
  reached Script.collaborators persistent [served] (start, opening refusedThrice)

/-- The law says of the next call, whose second attempt is accepted, that nothing is left of the failure,
and that the snapshot is at rest then. -/
theorem behindRefused_recovers :
    behindRefused.1.applied = ⟨some served, .empty⟩ ∧
      Distinguished (configurations ([served] ++ [servedElsewhere])) ∧
      (∀ g, behindRefused.1.appliedGeneration = some g → g < servedElsewhere.generation) ∧
      Unhindered Script.collaborators persistent behindRefused.1 behindRefused.2 servedElsewhere ∧
      (reached Script.collaborators persistent ([served] ++ [servedElsewhere])
        (start, opening refusedThrice)).1.applied = .of servedElsewhere ∧
      (reached Script.collaborators persistent
        ([served] ++ servedElsewhere :: [7, 9].map servedElsewhere.renewed)
        (start, opening refusedThrice)).1.applied = .of (servedElsewhere.renewed 9) := by
  have distinguished : Distinguished (configurations ([served] ++ [servedElsewhere])) :=
    List.inj_on_of_nodup_map (by decide +kernel)
  have applied : behindRefused.1.applied = ⟨some served, .empty⟩ := by decide +kernel
  have newer : ∀ g, behindRefused.1.appliedGeneration = some g →
      g < servedElsewhere.generation := by
    rw [appliedGeneration, applied]
    simp [served, servedElsewhere]
  have free : Unhindered Script.collaborators persistent behindRefused.1 behindRefused.2
      servedElsewhere :=
    .pushed (n := 1) (Prod.ext rfl (by decide +kernel))
      (.reloaded (by decide +kernel) (Prod.ext rfl (by decide +kernel))) (by decide)
      (by unfold Session.Accepted; decide +kernel)
  obtain ⟨_, recovered, rests⟩ := recovers_and_rests Script.collaborators persistent
    (opening refusedThrice) distinguished newer free
  exact ⟨applied, distinguished, newer, free, recovered, (rests [7, 9] (by decide)).2⟩

end Reconciler

end IngressControl
