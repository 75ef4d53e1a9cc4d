import IngressControl.Proofs.SurfaceInStep

/-!
# Whether an attempt is taken as a whole

To the control surface an attempt is meant to be one thing, taken or refused. It is made of a request
for each part that differs, the backends in front of the servers, and the first request that fails ends
it. One that succeeds is as meant. One that fails leaves the servers as they were, for their request is
the last one; but the backends in front of them may have been taken, and nobody takes them back.

`configure_whole_iff` says that this is the only way for an attempt to be taken in half. So one with a
single request is always taken as a whole or not at all (`configure_whole`).
-/

namespace IngressControl.SurfacePart

variable {client : ControlClient} {s s' : Surface} {new old : Configuration}
  {r : Except ControlError Unit} {e : ControlError}

/-- An attempt gets its backends taken: they differ, and their request is answered with success. -/
def TakesBackends (client : ControlClient) (s : Surface) (new old : Configuration) : Prop :=
  ¬backends.Same new old ∧ (client.post Surface.answer s (backends.wanted new)).1 = .ok ()

/-- Behind one request at most that fails the surface is as it was. -/
theorem held_postAll_error {bodies : List SectionBody} (single : bodies.length ≤ 1)
    (h : client.postAll Surface.answer s bodies = (.error e, s')) (n : SurfacePart) :
    n.held s' = n.held s := by
  match bodies with
  | [] => simp [ControlClient.postAll] at h
  | [body] =>
    rw [ControlClient.postAll] at h
    split at h
    · rename_i failed
      cases h
      exact held_post_error failed n
    · simp [ControlClient.postAll] at h

/-- What a failed attempt leaves: the servers that were held, and the new backends just when those were
taken in front of the failure. -/
theorem held_configure_error (h : s.configure client new old = (.error e, s')) :
    servers.held s' = servers.held s ∧
      (TakesBackends client s new old → backends.held s' = backends.wanted new) ∧
      (¬TakesBackends client s new old → backends.held s' = backends.held s) := by
  unfold Surface.configure ControlClient.configure SectionBody.changes at h
  by_cases same : new.backends = old.backends
  · rw [if_pos same, List.nil_append] at h
    have kept := held_postAll_error (by split <;> simp) h
    exact ⟨kept servers, fun takes => absurd same takes.1, fun _ => kept backends⟩
  · rw [if_neg same, List.singleton_append, ControlClient.postAll] at h
    split at h
    · rename_i failed
      cases h
      have kept := held_post_error failed
      refine ⟨kept servers, fun takes => ?_, fun _ => kept backends⟩
      have done := takes.2
      rw [wanted, failed] at done
      simp at done
    · -- the request for the servers is the one that failed
      rename_i s₁ done
      have kept := held_postAll_error (by split <;> simp) h
      have took : TakesBackends client s new old := ⟨same, by rw [wanted, done]⟩
      exact ⟨(kept servers).trans (held_post_ok done servers),
        fun _ => (kept backends).trans (held_post_ok done backends), fun none => absurd took none⟩

/-- **When an attempt is taken as a whole.** One that succeeds leaves in each part that differs what
belongs there, and the other parts as they were. One that fails leaves all as it was just when it got no
backends taken, or none but those that were there already. -/
theorem configure_whole_iff (h : s.configure client new old = (r, s')) :
    (r = .ok () → ∀ n : SurfacePart,
        n.held s' = if n.Same new old then n.held s else n.wanted new) ∧
      ∀ e, r = .error e →
        ((∀ n : SurfacePart, n.held s' = n.held s) ↔
          (TakesBackends client s new old → backends.held s = backends.wanted new)) := by
  constructor
  · rintro rfl n
    split
    · rename_i same
      exact held_configure_same h same
    · rename_i differ
      exact held_configure_ok h differ
  · rintro e rfl
    obtain ⟨last, taken, untaken⟩ := held_configure_error h
    constructor
    · intro whole took
      rw [← whole backends, taken took]
    · intro already n
      cases n with
      | servers => exact last
      | backends =>
        by_cases took : TakesBackends client s new old
        · rw [taken took, already took]
        · exact untaken took

/-- A backend, and a server for it. -/
def bothParts : Configuration where
  backends := [{ name := "web" }]
  servers := [{ hostname := "a.example", port := 80, locations := [⟨"/", "web"⟩] }]

/-- The surface takes the backend and rejects the server. -/
theorem bothParts_run :
    Reconciler.rejection.configure Reconciler.sampleClient bothParts .empty =
      (.error (.rejected "http://localhost/configuration/servers" 500),
        { backends := [{ name := "web" }] }) := by
  decide +kernel

/-- The backend is new there, so by the law something has changed. -/
theorem bothParts_whole_iff :
    Reconciler.rejection.configure Reconciler.sampleClient bothParts .empty =
        (.error (.rejected "http://localhost/configuration/servers" 500),
          { backends := [{ name := "web" }] }) ∧
      ((∀ n : SurfacePart, n.held { backends := [{ name := "web" }] } =
          n.held Reconciler.rejection) ↔
        (TakesBackends Reconciler.sampleClient Reconciler.rejection bothParts .empty →
          backends.held Reconciler.rejection = backends.wanted bothParts)) :=
  ⟨bothParts_run, (configure_whole_iff bothParts_run).2 _ rfl⟩

/-- **A failed attempt may be taken in half.** -/
theorem configure_not_whole : ¬∀ (client : ControlClient) (s s' : Surface) (new old : Configuration)
      (e : ControlError), s.configure client new old = (.error e, s') →
    ∀ n : SurfacePart, n.held s' = n.held s := by
  intro law
  have kept := law _ _ _ _ _ _ bothParts_run backends
  exact absurd kept (by decide)

/-- **An attempt that changes one part is taken as a whole or not at all.** -/
theorem configure_whole (single : backends.Same new old ∨ servers.Same new old)
    (h : s.configure client new old = (.error e, s')) (n : SurfacePart) : n.held s' = n.held s := by
  refine held_postAll_error ?_ h n
  rw [SectionBody.changes]
  rcases single with same | same
  · have unchanged : new.backends = old.backends := same
    rw [if_pos unchanged, List.nil_append]
    split <;> simp
  · have unchanged : new.servers = old.servers := same
    rw [if_pos unchanged, List.append_nil]
    split <;> simp

end IngressControl.SurfacePart
