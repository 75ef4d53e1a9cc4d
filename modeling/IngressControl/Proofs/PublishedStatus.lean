import IngressControl.Proofs.Reconciler.History
import IngressControl.Proofs.StatusPage
import Mathlib.Data.List.Chain

/-!
# The published status tells what is remembered

The status is a second copy of the memory. It is published at every end that a reconciliation has, at
some of them for the snapshot before and at others for the new one, so each end could get it wrong on
its own. None does: behind every call the status gives the generation and the fingerprint of the last
applied snapshot, and the outcome of that very call (`Call.Publishes`). The status page says the same,
and whoever reads it finds the status itself.

Along a run the generations of the applied calls ascend, and the last of them is the one published.
-/

namespace IngressControl.Reconciler

variable {σ : Type} {c : Collaborators σ} {settings : ReconcilerSettings}

/-! ## One call -/

variable {r r' : Reconciler} {s s' : Session σ} {snapshot : Snapshot} {o : Outcome}

/-- All ends publish the outcome together with the snapshot that is then the last applied one. -/
theorem Course.publishes (h : Course c settings r s snapshot r' s' o) :
    r'.status = .after o r'.applied.snapshot := by
  cases h <;> rfl

/-- An outcome tells of its own snapshot. -/
theorem Course.identifies (h : Course c settings r s snapshot r' s' o) :
    o.generation = snapshot.generation ∧ o.fingerprint = Fingerprint.of snapshot.structural := by
  cases h <;> exact ⟨rfl, rfl⟩

/-- How a call moves the generation, and what is published behind it. -/
structure Call.Publishes (k : Call σ) : Prop where
  /-- A call that is applied moves the generation up, to that of its snapshot. -/
  advances : k.outcome.kind.isApplied = true →
    k.after.1.appliedGeneration = some k.snapshot.generation ∧
      ∀ g, k.before.1.appliedGeneration = some g → g < k.snapshot.generation
  /-- Any other call leaves it. -/
  stays : k.outcome.kind.isApplied = false →
    k.after.1.appliedGeneration = k.before.1.appliedGeneration
  generation : k.after.1.status.generation = k.after.1.appliedGeneration
  fingerprint : k.after.1.status.fingerprint =
    k.after.1.applied.snapshot.map fun last => Fingerprint.of last.structural
  lastOutcome : k.after.1.status.lastOutcome = some k.outcome.summary
  /-- An outcome that was applied tells the same generation and fingerprint as the status. -/
  agrees : k.outcome.kind.isApplied = true →
    k.after.1.status.generation = some k.outcome.generation ∧
      k.after.1.status.fingerprint = some k.outcome.fingerprint
  /-- Who asks for the status page and reads it finds the status. -/
  page : ∃ body, StatusPage.reply k.after.1.status "GET" "/status" =
      { code := 200, contentType := some "application/json", body } ∧
    StatusPage.read? body = some (StatusPage.version, k.after.1.status)

theorem callOf_publishes (c : Collaborators σ) (settings : ReconcilerSettings)
    (p : Reconciler × Session σ) (x : Snapshot) : (callOf c settings p x).Publishes := by
  have course := callOf_course c settings p x
  have status := course.publishes
  obtain ⟨generation, fingerprint⟩ := course.identifies
  have page : StatusPage.reply (callOf c settings p x).after.1.status "GET" "/status" =
      { code := 200, contentType := some "application/json",
        body := StatusPage.statusBody (callOf c settings p x).after.1.status } := rfl
  rcases course.remembers with ⟨isApplied, news, last⟩ | ⟨notApplied, same⟩
  · refine ⟨fun _ => ⟨?_, fun g found => ?_⟩, fun notApplied => ?_, by rw [status]; rfl,
      by rw [status]; rfl, by rw [status]; rfl, fun _ => ?_, ⟨_, page, StatusPage.read?_statusBody _⟩⟩
    · rw [appliedGeneration, last]
      rfl
    · obtain ⟨before, remembered, rfl⟩ := Option.map_eq_some_iff.mp found
      exact (isStale_eq_false_iff _ _).mp news before remembered
    · simp [isApplied] at notApplied
    · rw [status, last, generation, fingerprint]
      exact ⟨rfl, rfl⟩
  · refine ⟨fun isApplied => ?_, fun _ => ?_, by rw [status]; rfl, by rw [status]; rfl,
      by rw [status]; rfl, fun isApplied => ?_, ⟨_, page, StatusPage.read?_statusBody _⟩⟩
    · simp [notApplied] at isApplied
    · rw [appliedGeneration, same]
      rfl
    · simp [notApplied] at isApplied

/-! ## Whole runs -/

/-- The generations that some calls applied. -/
def appliedGenerations (calls : List (Call σ)) : List Int64 :=
  (calls.filter (·.outcome.kind.isApplied)).map (·.snapshot.generation)

theorem appliedGenerations_snoc (calls : List (Call σ)) (k : Call σ) :
    appliedGenerations (calls ++ [k]) = appliedGenerations calls ++
      if k.outcome.kind.isApplied then [k.snapshot.generation] else [] := by
  rw [appliedGenerations, List.filter_append, List.map_append, List.filter_singleton]
  cases k.outcome.kind.isApplied <;> rfl

/-- What some calls leave published: the generations ascend up to the one that is remembered, and the
status tells that and the last call. -/
structure Published (calls : List (Call σ)) (r : Reconciler) : Prop where
  ascending : (appliedGenerations calls).IsChain (· < ·)
  last : r.appliedGeneration = (appliedGenerations calls).getLast?
  status : r.status = ⟨r.appliedGeneration,
    r.applied.snapshot.map fun last => Fingerprint.of last.structural,
    calls.getLast?.map (·.outcome.summary)⟩

theorem published_start : Published ([] : List (Call σ)) start := ⟨.nil, rfl, rfl⟩

theorem Published.snoc {calls : List (Call σ)} {k : Call σ} (h : Published calls k.before.1)
    (publishes : k.Publishes) : Published (calls ++ [k]) k.after.1 := by
  have status : k.after.1.status = ⟨k.after.1.appliedGeneration,
      k.after.1.applied.snapshot.map fun last => Fingerprint.of last.structural,
      (calls ++ [k]).getLast?.map (·.outcome.summary)⟩ := by
    rw [List.getLast?_append, ← publishes.generation, ← publishes.fingerprint]
    exact congrArg (Status.mk _ _) publishes.lastOutcome
  cases isApplied : k.outcome.kind.isApplied with
  | false =>
    have same : appliedGenerations (calls ++ [k]) = appliedGenerations calls := by
      rw [appliedGenerations_snoc, isApplied]
      exact List.append_nil _
    exact ⟨same ▸ h.ascending, by rw [same, publishes.stays isApplied, h.last], status⟩
  | true =>
    obtain ⟨new, above⟩ := publishes.advances isApplied
    have more : appliedGenerations (calls ++ [k]) =
        appliedGenerations calls ++ [k.snapshot.generation] := by
      rw [appliedGenerations_snoc, isApplied, if_pos rfl]
    refine ⟨more ▸ List.isChain_append.mpr ⟨h.ascending, .singleton _, fun g hg => ?_⟩, ?_, status⟩
    · -- what was applied last is what was remembered before the call
      simpa using above g (h.last.trans hg)
    · rw [more, new, List.getLast?_concat]

theorem published_reached (c : Collaborators σ) (settings : ReconcilerSettings) (s₀ : Session σ)
    (xs : List Snapshot) :
    Published (history c settings xs (start, s₀)) (reached c settings xs (start, s₀)).1 :=
  history_induction (P := fun calls q => Published calls q.1) published_start xs
    fun _ q x _ before => before.snoc (callOf_publishes c settings q x)

/-- **The status is coherent.** Behind every call it tells the last applied generation and configuration
and the outcome of that call, and so does the status page. The generations that were applied ascend,
and the last of them is remembered; while nothing was applied, the status has no generation. -/
theorem status_coherent (c : Collaborators σ) (settings : ReconcilerSettings) (s₀ : Session σ)
    (xs : List Snapshot) :
    (∀ k ∈ history c settings xs (start, s₀), k.Publishes) ∧
      (appliedGenerations (history c settings xs (start, s₀))).IsChain (· < ·) ∧
      (reached c settings xs (start, s₀)).1.appliedGeneration =
        (appliedGenerations (history c settings xs (start, s₀))).getLast? ∧
      (reached c settings xs (start, s₀)).1.status =
        ⟨(reached c settings xs (start, s₀)).1.appliedGeneration,
          (reached c settings xs (start, s₀)).1.applied.snapshot.map
            fun last => Fingerprint.of last.structural,
          (history c settings xs (start, s₀)).getLast?.map (·.outcome.summary)⟩ := by
  have published := published_reached c settings s₀ xs
  refine ⟨fun k hk => ?_, published.ascending, published.last, published.status⟩
  obtain ⟨ys, x, _, rfl⟩ := history_mem hk
  exact callOf_publishes c settings _ x

end IngressControl.Reconciler
