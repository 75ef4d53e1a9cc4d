import IngressControl.Proofs.Change
import IngressControl.Proofs.LiveArtifact

/-!
# What the running proxy was loaded for

Sockets, certificates in use, the services below HTTP and the default material are set up when the
proxy loads its artifact, and stay as they are until it loads the next one. The last applied snapshot
must get by with what the last load has set up.

A reconciler never looks back so far. It compares a snapshot with the last applied one, which may have
been applied without a load, behind others that were too. That this is enough rests on the comparison
being an equivalence: `Covers` is reflexive and transitive, so a chain of snapshots that each cover
the next one is covered by its first (`loaded_covers`). Before the first load there is nothing to
compare with, and a snapshot is applied only when it needs nothing at all of what a load sets up.
-/

namespace IngressControl

namespace Snapshot

variable {a b d : Snapshot}

/-- A proxy that was loaded for one snapshot takes another one as it is. -/
structure Covers (a b : Snapshot) : Prop where
  reachable : Configuration.isDynamicallyReachable a.structural b.structural = true
  source : a.sourceChecksum = b.sourceChecksum
  material : MaterialKey.of (some a) = MaterialKey.of (some b)

/-- A snapshot that needs nothing of what a load sets up. -/
structure Bare (a : Snapshot) : Prop where
  servers : a.servers = []
  tcpServices : a.tcpServices = []
  udpServices : a.udpServices = []
  defaultCertificate : a.defaultCertificate = none
  dhParam : a.dhParam = none

theorem Covers.refl (a : Snapshot) : a.Covers a :=
  ⟨Configuration.isDynamicallyReachable_iff.mpr ⟨rfl, rfl, rfl, rfl⟩, rfl, rfl⟩

theorem Covers.trans (h : a.Covers b) (h' : b.Covers d) : a.Covers d := by
  obtain ⟨ports, certificates, tcp, udp⟩ := Configuration.isDynamicallyReachable_iff.mp h.reachable
  obtain ⟨ports', certificates', tcp', udp'⟩ :=
    Configuration.isDynamicallyReachable_iff.mp h'.reachable
  exact ⟨Configuration.isDynamicallyReachable_iff.mpr ⟨ports.trans ports',
    certificates.trans certificates', tcp.trans tcp', udp.trans udp'⟩,
    h.source.trans h'.source, h.material.trans h'.material⟩

/-- What a bare snapshot covers is bare. -/
theorem Bare.of_covers (h : a.Bare) (covers : a.Covers b) : b.Bare := by
  obtain ⟨ports, _, tcp, udp⟩ := Configuration.isDynamicallyReachable_iff.mp covers.reachable
  have noTcp : b.tcpServices = [] := (show a.tcpServices = b.tcpServices from tcp) ▸ h.tcpServices
  have noUdp : b.udpServices = [] := (show a.udpServices = b.udpServices from udp) ▸ h.udpServices
  have noServers : b.servers = [] := by
    rw [List.eq_nil_iff_forall_not_mem]
    intro s hs
    have listed : s.port ∈ b.structural.listenerPorts := by
      rw [Configuration.listenerPorts, mem_sortedSet]
      exact List.mem_append_left _ (List.mem_append_left _ (List.mem_map_of_mem hs))
    rw [← ports, Configuration.listenerPorts, mem_sortedSet] at listed
    simp [structural, h.servers, h.tcpServices, h.udpServices] at listed
  obtain ⟨certificate, parameters⟩ := MaterialKey.mk.inj covers.material
  rw [h.defaultCertificate, Option.map_none, eq_comm, Option.map_eq_none_iff] at certificate
  rw [h.dhParam, Option.map_none, eq_comm, Option.map_eq_none_iff] at parameters
  exact ⟨noServers, noTcp, noUdp, certificate, parameters⟩

end Snapshot

namespace Reconciler

variable {σ : Type} {c : Collaborators σ} {settings : ReconcilerSettings} {snapshot : Snapshot}

/-! ## One reconciliation -/

section

variable {r r' : Reconciler} {s s' : Session σ} {o : Outcome}

/-- A snapshot that calls for no reload is covered by the last applied one. -/
theorem covers_of_quiet {last : Snapshot} (applied : r.applied.snapshot = some last)
    (calls : (r.reason snapshot).calls = false) : last.Covers snapshot := by
  simp only [ReloadReason.calls, reason, applied, Bool.or_eq_false_iff, Option.any_some,
    decide_eq_false_iff_not, not_not, Bool.not_eq_false', Applied.configuration] at calls
  exact ⟨calls.2, calls.1.1, calls.1.2⟩

/-- A first snapshot that calls for no reload is bare. -/
theorem bare_of_quiet (applied : r.applied.snapshot = none)
    (calls : (r.reason snapshot).calls = false) : snapshot.Bare := by
  simp only [ReloadReason.calls, reason, applied, Bool.or_eq_false_iff, Option.any_none,
    decide_eq_false_iff_not, not_not, Bool.not_eq_false', Applied.configuration] at calls
  -- an empty snapshot made from the same settings stands for the beginning
  have nothing : Snapshot.Bare { sourceChecksum := snapshot.sourceChecksum } :=
    ⟨rfl, rfl, rfl, rfl, rfl⟩
  exact nothing.of_covers ⟨calls.2, rfl, calls.1.2⟩

/-- What a reconciliation does to the static layer. -/
inductive LayerStep (r : Reconciler) (snapshot : Snapshot) : Applied → Outcome → Prop
  /-- Nothing was applied. -/
  | kept {o : Outcome} (notReloaded : o.reloaded = false) : LayerStep r snapshot r.applied o
  | loaded {dynamic : Configuration} {o : Outcome} (reloaded : o.reloaded = true)
      (applied : o.kind.isApplied = true) : LayerStep r snapshot ⟨some snapshot, dynamic⟩ o
  /-- Applied to the proxy as it runs. -/
  | running {dynamic : Configuration} {o : Outcome} (notReloaded : o.reloaded = false)
      (calls : (r.reason snapshot).calls = false) : LayerStep r snapshot ⟨some snapshot, dynamic⟩ o

theorem LayerStep.applied {applied : Applied} (h : LayerStep r snapshot applied o)
    (reloaded : o.reloaded = true) : o.kind.isApplied = true := by
  cases h with
  | kept notReloaded => simp [notReloaded] at reloaded
  | loaded _ applied => exact applied
  | running notReloaded calls => simp [notReloaded] at reloaded

theorem course_layer (h : Course c settings r s snapshot r' s' o) :
    LayerStep r snapshot r'.applied o := by
  -- behind either push the proxy was reloaded, or no reload was called for
  have pushed : ∀ {s₁ s₂ : Session σ} {reloaded : Bool} {dynamic : Configuration} {o : Outcome},
      Prepared c settings r snapshot s₁ reloaded s₂ → o.reloaded = reloaded →
        o.kind.isApplied = true → LayerStep r snapshot ⟨some snapshot, dynamic⟩ o := by
    intro s₁ s₂ reloaded dynamic o prepared same applied
    cases prepared with
    | reloaded calls load => exact .loaded same applied
    | running calls => exact .running same calls
  cases h with
  | stale old => exact .kept rfl
  | unsynced news sync => exact .kept rfl
  | unchanged news sync same => exact .running rfl (calls_of_unchanged same)
  | unloaded news sync calls load => exact .kept rfl
  | pushed news sync differs prepared push => exact pushed prepared rfl rfl
  | unpushed news sync differs prepared push => exact pushed prepared rfl rfl

end

/-! ## Whole runs -/

/-- The snapshot that the proxy was loaded for last. -/
def lastLoaded (calls : List (Call σ)) : Option Snapshot :=
  (calls.filter (·.outcome.reloaded)).getLast?.map (·.snapshot)

theorem lastLoaded_snoc (calls : List (Call σ)) (k : Call σ) :
    lastLoaded (calls ++ [k]) =
      if k.outcome.reloaded = true then some k.snapshot else lastLoaded calls := by
  rw [lastLoaded, lastLoaded, List.filter_append]
  by_cases h : k.outcome.reloaded = true
  · simp [h]
  · simp [h]

/-- How the last applied snapshot stands to the one that the proxy was loaded for last. -/
def Layered : Option Snapshot → Option Snapshot → Prop
  | some loaded, applied => ∃ s, applied = some s ∧ loaded.Covers s
  | none, applied => ∀ s, applied = some s → s.Bare

theorem Layered.step {r : Reconciler} {loaded : Option Snapshot} {applied : Applied} {o : Outcome}
    (h : Layered loaded r.applied.snapshot) (step : LayerStep r snapshot applied o) :
    Layered (if o.reloaded = true then some snapshot else loaded) applied.snapshot := by
  cases step with
  | kept notReloaded =>
    rw [if_neg (by simp [notReloaded])]
    exact h
  | loaded reloaded =>
    rw [if_pos reloaded]
    exact ⟨snapshot, rfl, .refl snapshot⟩
  | running notReloaded calls =>
    rw [if_neg (by simp [notReloaded])]
    cases loaded with
    | some first =>
      -- the chain grows by one link
      obtain ⟨last, hlast, covers⟩ := h
      exact ⟨snapshot, rfl, covers.trans (covers_of_quiet hlast calls)⟩
    | none =>
      intro s hs
      cases hs
      cases hlast : r.applied.snapshot with
      | none => exact bare_of_quiet hlast calls
      | some last => exact (h last hlast).of_covers (covers_of_quiet hlast calls)

theorem layered_reached (c : Collaborators σ) (settings : ReconcilerSettings) (s₀ : Session σ)
    (xs : List Snapshot) : Layered (lastLoaded (history c settings xs (start, s₀)))
      (reached c settings xs (start, s₀)).1.applied.snapshot := by
  refine history_induction (P := fun done q => Layered (lastLoaded done) q.1.applied.snapshot) ?_ xs ?_
  · exact fun s hs => by simp [start] at hs
  · intro done q x _ h
    rw [lastLoaded_snoc]
    exact h.step (course_layer (callOf_course c settings q x))

/-- **The proxy was loaded for all that it runs.** Behind every run the last applied snapshot gets by
with what the last load has set up, and where the proxy was never loaded it needs nothing of that. A
load is always that of a snapshot that was applied. -/
theorem loaded_covers (c : Collaborators σ) (settings : ReconcilerSettings) (s₀ : Session σ)
    (xs : List Snapshot) :
    (∀ k ∈ history c settings xs (start, s₀),
        k.outcome.reloaded = true → k.outcome.kind.isApplied = true) ∧
      Layered (lastLoaded (history c settings xs (start, s₀)))
        (reached c settings xs (start, s₀)).1.applied.snapshot := by
  refine history_induction (P := fun done q => (∀ k ∈ done, k.outcome.reloaded = true →
    k.outcome.kind.isApplied = true) ∧ Layered (lastLoaded done) q.1.applied.snapshot) ?_ xs ?_
  · exact ⟨by simp, fun s hs => by simp [start] at hs⟩
  · intro done q x _ h
    have step := course_layer (callOf_course c settings q x)
    refine ⟨fun k hk => ?_, ?_⟩
    · rcases List.mem_append.mp hk with earlier | this
      · exact h.1 k earlier
      · rw [List.mem_singleton.mp this]
        exact step.applied
    · rw [lastLoaded_snoc]
      exact h.2.step step

theorem movedAndBack_generations :
    (lastLoaded (history Script.collaborators sampleSettings movedAndBack
        (start, opening failedSignal))).map (·.generation) = some 1 ∧
      (reached Script.collaborators sampleSettings movedAndBack
        (start, opening failedSignal)).1.applied.snapshot.map (·.generation) = some 3 := by
  decide +kernel

/-- A run whose second call fails to have its artifact loaded: its third snapshot runs on what the
first one was loaded for. -/
theorem movedAndBack_covered :
    ∃ loaded s, lastLoaded (history Script.collaborators sampleSettings movedAndBack
        (start, opening failedSignal)) = some loaded ∧ loaded.generation = 1 ∧
      (reached Script.collaborators sampleSettings movedAndBack
        (start, opening failedSignal)).1.applied.snapshot = some s ∧ s.generation = 3 ∧
      loaded.Covers s := by
  have layered := (loaded_covers Script.collaborators sampleSettings (opening failedSignal)
    movedAndBack).2
  obtain ⟨loaded, hloaded, first⟩ := Option.map_eq_some_iff.mp movedAndBack_generations.1
  obtain ⟨s, hs, third⟩ := Option.map_eq_some_iff.mp movedAndBack_generations.2
  rw [hloaded, hs] at layered
  obtain ⟨s', hs', covers⟩ := layered
  cases hs'
  exact ⟨loaded, s, hloaded, first, hs, third, covers⟩

end Reconciler

end IngressControl
