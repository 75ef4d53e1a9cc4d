import IngressControl.ControlSurface.Surface
import IngressControl.Proofs.Reconciler.Stages

/-!
# What pushes make of the control surface

The surface has two parts, the backends and the servers, and they are treated alike: a part is posted
when its lists differ from those of the base, and what is posted takes the place of what was held.

A push that is taken leaves in each part that differs from the base what belongs there, whichever of
its attempts had got that far. A part that does not differ is never posted, so it holds what it held
before the push, right or wrong.
-/

namespace IngressControl

/-- One of the two parts of the control surface. -/
inductive SurfacePart where
  | backends
  | servers
deriving DecidableEq

namespace SurfacePart

/-- Which part a body goes to. -/
def ofBody : SectionBody → SurfacePart
  | .backends _ => .backends
  | .servers _ => .servers

/-- What the surface holds in a part. -/
def held : SurfacePart → Surface → SectionBody
  | .backends, s => .backends s.backends
  | .servers, s => .servers s.servers

/-- What belongs into a part for a configuration. -/
def wanted : SurfacePart → Configuration → SectionBody
  | .backends, c => .backends c.backends
  | .servers, c => .servers (ServersPayload.of c)

/-- Whether two configurations are taken to want the same in a part. -/
def Same : SurfacePart → Configuration → Configuration → Prop
  | .backends, a, b => a.backends = b.backends
  | .servers, a, b => a.servers = b.servers

instance (n : SurfacePart) (a b : Configuration) : Decidable (n.Same a b) :=
  match n with
  | .backends => inferInstanceAs (Decidable (a.backends = b.backends))
  | .servers => inferInstanceAs (Decidable (a.servers = b.servers))

variable {n : SurfacePart} {a b d : Configuration}

theorem Same.refl (n : SurfacePart) (a : Configuration) : n.Same a a := by
  cases n <;> exact rfl

theorem Same.symm (h : n.Same a b) : n.Same b a := by
  cases n <;> exact Eq.symm h

theorem Same.trans (h : n.Same a b) (h' : n.Same b d) : n.Same a d := by
  cases n <;> exact Eq.trans h h'

/-- They do want the same then. -/
theorem Same.wanted (h : n.Same a b) : n.wanted a = n.wanted b := by
  cases n with
  | backends => exact congrArg SectionBody.backends h
  | servers =>
    have servers : a.servers = b.servers := h
    rw [SurfacePart.wanted, SurfacePart.wanted, ServersPayload.of, ServersPayload.of, servers]

/-- The bodies that are posted: one for each part that differs from the base. -/
theorem mem_changes {body : SectionBody} : body ∈ SectionBody.changes a b ↔
    ∃ n : SurfacePart, ¬n.Same a b ∧ body = n.wanted a := by
  rw [SectionBody.changes, List.mem_append]
  constructor
  · rintro (h | h)
    · split at h
      · simp at h
      · rename_i differ
        exact ⟨.backends, differ, List.mem_singleton.mp h⟩
    · split at h
      · simp at h
      · rename_i differ
        exact ⟨.servers, differ, List.mem_singleton.mp h⟩
  · rintro ⟨n, differ, rfl⟩
    cases n with
    | backends =>
      have differs : ¬a.backends = b.backends := differ
      rw [if_neg differs]
      exact Or.inl (List.mem_singleton.mpr rfl)
    | servers =>
      have differs : ¬a.servers = b.servers := differ
      rw [if_neg differs]
      exact Or.inr (List.mem_singleton.mpr rfl)

theorem ofBody_wanted (n : SurfacePart) (a : Configuration) : ofBody (n.wanted a) = n := by
  cases n <;> rfl

/-! ## One attempt -/

theorem held_take (n : SurfacePart) (s : Surface) (body : SectionBody) :
    n.held (s.take body) = if ofBody body = n then body else n.held s := by
  cases n <;> cases body <;> rfl

variable {client : ControlClient} {s s' : Surface} {body : SectionBody} {bodies : List SectionBody}

theorem request_body {q : Request} (h : client.request body = .ok q) : q.body = body := by
  unfold ControlClient.request at h
  split at h
  · cases h; rfl
  · simp at h

/-- A request that is answered with success puts its body in place, and any other one leaves all as
it is. -/
theorem held_answer (n : SurfacePart) (s : Surface) (q : Request) :
    (q.result (s.answer q).1 = .ok () ∧
        n.held (s.answer q).2 = if ofBody q.body = n then q.body else n.held s) ∨
      ((∃ e, q.result (s.answer q).1 = .error e) ∧ n.held (s.answer q).2 = n.held s) := by
  have kept : ∀ replies, n.held { s with replies } = n.held s := fun _ => by cases n <;> rfl
  unfold Surface.answer
  dsimp only
  cases s.replies.headD (.status 200) with
  | unreachable => exact Or.inr ⟨⟨_, rfl⟩, kept _⟩
  | status code =>
    by_cases success : isSuccess code = true
    · refine Or.inl ⟨by simp [Request.result, success], ?_⟩
      rw [Surface.isTaken, if_pos success, held_take, kept]
    · refine Or.inr ⟨⟨_, by simp [Request.result, success]; rfl⟩, ?_⟩
      rw [Surface.isTaken, if_neg success, kept]

/-- A post that succeeds puts its body in place. -/
theorem held_post_ok (h : client.post Surface.answer s body = (.ok (), s')) (n : SurfacePart) :
    n.held s' = if ofBody body = n then body else n.held s := by
  unfold ControlClient.post at h
  split at h
  · simp at h
  · rename_i q request
    split at h
    · obtain ⟨result, rfl⟩ : q.result (s.answer q).1 = .ok () ∧ (s.answer q).2 = s' :=
        Prod.mk.inj h
      rcases held_answer n s q with ⟨_, held⟩ | ⟨⟨e, failed⟩, _⟩
      · rw [held, request_body request]
      · rw [failed] at result; simp at result
    · simp at h

/-- A post that fails leaves the surface. -/
theorem held_post_error {e : ControlError}
    (h : client.post Surface.answer s body = (.error e, s')) (n : SurfacePart) :
    n.held s' = n.held s := by
  unfold ControlClient.post at h
  split at h
  · cases h; rfl
  · rename_i q request
    split at h
    · obtain ⟨result, rfl⟩ : q.result (s.answer q).1 = .error e ∧ (s.answer q).2 = s' :=
        Prod.mk.inj h
      rcases held_answer n s q with ⟨done, _⟩ | ⟨_, held⟩
      · rw [done] at result; simp at result
      · exact held
    · cases h; rfl

/-- Posts leave a part that none of their bodies goes to. -/
theorem held_postAll_apart {r : Except ControlError Unit} :
    ∀ {bodies : List SectionBody} {s : Surface},
      (∀ body ∈ bodies, ofBody body ≠ n) → client.postAll Surface.answer s bodies = (r, s') →
        n.held s' = n.held s := by
  intro bodies
  induction bodies with
  | nil => intro s _ h; cases h; rfl
  | cons body rest ih =>
    intro s apart h
    rw [ControlClient.postAll] at h
    split at h
    · rename_i e s₁ failed
      cases h
      exact held_post_error failed n
    · rename_i s₁ done
      have first := held_post_ok done n
      rw [if_neg (apart body (by simp))] at first
      rw [ih (fun b hb => apart b (by simp [hb])) h, first]

/-- When all posts succeed a part holds a body that went to it, if it was the only such body. -/
theorem held_postAll_ok : ∀ {bodies : List SectionBody} {s : Surface}, body ∈ bodies →
    ofBody body = n → (∀ other ∈ bodies, ofBody other = n → other = body) →
      client.postAll Surface.answer s bodies = (.ok (), s') → n.held s' = body := by
  intro bodies
  induction bodies with
  | nil => intro s hbody; simp at hbody
  | cons first rest ih =>
    intro s hbody goes only h
    rw [ControlClient.postAll] at h
    split at h
    · simp at h
    · rename_i s₁ done
      by_cases later : body ∈ rest
      · -- a later post to the same part decides
        exact ih later goes (fun b hb => only b (by simp [hb])) h
      · have here : first = body := by
          rcases List.mem_cons.mp hbody with here | there
          · exact here.symm
          · exact absurd there later
        have apart : ∀ other ∈ rest, ofBody other ≠ n := by
          intro other hother same
          rw [only other (by simp [hother]) same] at hother
          exact later hother
        rw [held_postAll_apart apart h, held_post_ok done n, here, if_pos goes]

/-- An attempt that succeeds leaves what belongs there in each part that differs from the base. -/
theorem held_configure_ok (h : s.configure client a b = (.ok (), s')) (differ : ¬n.Same a b) :
    n.held s' = n.wanted a := by
  have posted : n.wanted a ∈ SectionBody.changes a b := mem_changes.mpr ⟨n, differ, rfl⟩
  refine held_postAll_ok posted (ofBody_wanted n a) ?_ h
  intro other hother goes
  obtain ⟨m, _, rfl⟩ := mem_changes.mp hother
  rw [ofBody_wanted] at goes
  rw [goes]

/-- No attempt touches a part that does not differ from the base. -/
theorem held_configure_same {r : Except ControlError Unit}
    (h : s.configure client a b = (r, s')) (same : n.Same a b) : n.held s' = n.held s := by
  refine held_postAll_apart ?_ h
  intro body hbody goes
  obtain ⟨m, differ, rfl⟩ := mem_changes.mp hbody
  rw [ofBody_wanted] at goes
  exact differ (goes ▸ same)

end SurfacePart

/-! ## Collaborators over the surface -/

/-- Collaborators whose attempts go to the control surface; all else is done by others. -/
def Collaborators.overSurface {τ : Type} (client : ControlClient) (others : Collaborators τ) :
    Collaborators (Surface × τ) where
  render w snapshot context :=
    ((others.render w.2 snapshot context).1, w.1, (others.render w.2 snapshot context).2)
  dryRun w artifact :=
    ((others.dryRun w.2 artifact).1, (others.dryRun w.2 artifact).2.1, w.1,
      (others.dryRun w.2 artifact).2.2)
  reload w := ((others.reload w.2).1, w.1, (others.reload w.2).2)
  configure w new old :=
    ((w.1.configure client new old).1, (w.1.configure client new old).2, w.2)
  draw w bound := ((others.draw w.2 bound).1, w.1, (others.draw w.2 bound).2)
  disk w := ((others.disk w.2).1, w.1, (others.disk w.2).2)

variable {τ : Type} {client : ControlClient} {others : Collaborators τ}

theorem Collaborators.overSurface_blind (client : ControlClient) (others : Collaborators τ) :
    (overSurface client others).Blind Prod.fst :=
  ⟨fun _ _ _ => rfl, fun _ _ => rfl, fun _ => rfl, fun _ _ => rfl, fun _ => rfl⟩

namespace SurfacePart

variable {n : SurfacePart} {new old : Configuration} {b : Backoff} {s s' : Session (Surface × τ)}

/-- Of all attempts the last one decides: the surface is left to it as it was in all parts that do not
differ. -/
theorem held_attempts {r : Except ControlError Unit} :
    ∀ (remaining : Nat) (attempt : UInt32) (s : Session (Surface × τ)),
      Session.attempts (.overSurface client others) b new old remaining attempt s = (s', r) →
        (n.Same new old → n.held s'.world.1 = n.held s.world.1) ∧
          (r = .ok () → ¬n.Same new old → n.held s'.world.1 = n.wanted new) := by
  have one : ∀ {s s' : Session (Surface × τ)} {r : Except ControlError Unit},
      s.configure (.overSurface client others) new old = (s', r) →
        (n.Same new old → n.held s'.world.1 = n.held s.world.1) ∧
          (r = .ok () → ¬n.Same new old → n.held s'.world.1 = n.wanted new) := by
    intro s s' r h
    cases h
    exact ⟨held_configure_same rfl, fun done => held_configure_ok (Prod.ext done rfl)⟩
  intro remaining
  induction remaining with
  | zero => exact fun attempt s h => one h
  | succ remaining ih =>
    intro attempt s h
    rw [Session.attempts] at h
    split at h
    · rename_i s₁ done
      cases h
      exact one done
    · -- posts of the failed attempt may stand, but only in parts that differ from the base
      rename_i s₁ e failed
      obtain ⟨kept, left⟩ := ih (attempt + 1) (s₁.pause (.overSurface client others) b attempt) h
      exact ⟨fun same => (kept same).trans ((one failed).1 same), left⟩

/-- **What a push makes of the surface**: it leaves the parts that do not differ from the base, and
in the others, when it is taken, what belongs there. -/
theorem held_push {r : Except ControlError Unit}
    (h : s.push (.overSurface client others) b new old = (s', r)) :
    (n.Same new old → n.held s'.world.1 = n.held s.world.1) ∧
      (r = .ok () → ¬n.Same new old → n.held s'.world.1 = n.wanted new) :=
  held_attempts _ 0 s h

end SurfacePart

end IngressControl
