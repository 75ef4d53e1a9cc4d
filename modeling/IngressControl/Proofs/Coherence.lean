import IngressControl.Artifact
import Mathlib.Data.List.Nodup

/-!
# Coherent snapshots

An artifact can be made of a snapshot just when the snapshot is coherent. What that means is said here
apart from the check for it, which goes through the servers one by one and stops at the first fault:
a snapshot is coherent when all of its servers are named, no two of them share a place, and all of
their locations lead to a backend that is declared.

Endpoints, certificates and the services below HTTP play no part in it. So a coherent snapshot stays
coherent as long as its servers stay as they are and none of its backends goes away.
-/

namespace IngressControl

/-- A snapshot that an artifact can be made of. -/
structure Snapshot.Coherent (s : Snapshot) : Prop where
  /-- Each hostname has a character that is not white space. -/
  named : ∀ v ∈ s.servers, ∃ x ∈ v.hostname.toList, isBlank x = false
  /-- No two servers share hostname and port. -/
  distinct : (s.servers.map fun v => (v.hostname, v.port)).Nodup
  /-- Each location leads to a declared backend. -/
  declared : ∀ v ∈ s.servers, ∀ l ∈ v.locations, ∃ b ∈ s.backends, b.name = l.backend

namespace Artifact

variable {backends : List String} {earlier : List (String × UInt16)} {servers : List Server}
  {s : Snapshot} {context : RenderContext}

theorem isBlankText_eq_false {text : String} :
    isBlankText text = false ↔ ∃ x ∈ text.toList, isBlank x = false := by
  simp [isBlankText, List.all_eq_false]

/-- A server is without a fault when it is named, stands at a place of its own and leads to declared
backends. -/
theorem fault?_eq_none_iff {v : Server} : fault? backends earlier v = none ↔
    (∃ x ∈ v.hostname.toList, isBlank x = false) ∧ (v.hostname, v.port) ∉ earlier ∧
      ∀ l ∈ v.locations, l.backend ∈ backends := by
  rw [← isBlankText_eq_false, fault?]
  split
  · rename_i blank
    simp [blank]
  · rename_i named
    split
    · rename_i taken
      simp [List.contains_iff_mem.mp taken]
    · rename_i free
      have apart : (v.hostname, v.port) ∉ earlier := fun h => free (List.contains_iff_mem.mpr h)
      simp [named, apart]

/-- The servers of a list are without a fault when each of them is, given those in front of it. -/
theorem firstFault?_eq_none_iff : firstFault? backends earlier servers = none ↔
    (∀ v ∈ servers, (∃ x ∈ v.hostname.toList, isBlank x = false) ∧
        ∀ l ∈ v.locations, l.backend ∈ backends) ∧
      (servers.map fun v => (v.hostname, v.port)).Nodup ∧
      ∀ v ∈ servers, (v.hostname, v.port) ∉ earlier := by
  induction servers generalizing earlier with
  | nil => simp [firstFault?]
  | cons v rest ih =>
    rw [firstFault?]
    cases fault : fault? backends earlier v with
    | some e =>
      have faulty : fault? backends earlier v ≠ none := by simp [fault]
      rw [Ne, fault?_eq_none_iff] at faulty
      simp only [reduceCtorEq, List.mem_cons, forall_eq_or_imp, false_iff]
      rintro ⟨⟨sound, _⟩, _, apart, _⟩
      exact faulty ⟨sound.1, apart, sound.2⟩
    | none =>
      obtain ⟨named, apart, declared⟩ := fault?_eq_none_iff.mp fault
      dsimp only
      rw [ih]
      -- a place is taken by the servers in front or by this one
      simp only [List.mem_cons, not_or, List.map_cons, List.nodup_cons, List.mem_map,
        forall_eq_or_imp, not_exists, not_and]
      constructor
      · rintro ⟨sound, distinct, free⟩
        exact ⟨⟨⟨named, declared⟩, sound⟩, ⟨fun w hw => (free w hw).1, distinct⟩, apart,
          fun w hw => (free w hw).2⟩
      · rintro ⟨⟨_, sound⟩, ⟨other, distinct⟩, _, free⟩
        exact ⟨sound, distinct, fun w hw => ⟨other w hw, free w hw⟩⟩

/-- **The check finds a fault just in the snapshots that are not coherent.** -/
theorem incoherence?_eq_none_iff : incoherence? s = none ↔ s.Coherent := by
  rw [incoherence?, firstFault?_eq_none_iff]
  constructor
  · rintro ⟨sound, distinct, _⟩
    refine ⟨fun v hv => (sound v hv).1, distinct, fun v hv l hl => ?_⟩
    exact List.mem_map.mp ((sound v hv).2 l hl)
  · rintro ⟨named, distinct, declared⟩
    refine ⟨fun v hv => ⟨named v hv, fun l hl => ?_⟩, distinct, by simp⟩
    exact List.mem_map.mpr (declared v hv l hl)

theorem coherent_of_render {artifact : String} (h : render s context = .ok artifact) :
    s.Coherent := by
  unfold render at h
  split at h
  · simp at h
  · rename_i coherent
    exact incoherence?_eq_none_iff.mp coherent

theorem not_coherent_of_render {e : RenderError} (h : render s context = .error e) :
    ¬s.Coherent := by
  intro coherent
  rw [render, incoherence?_eq_none_iff.mpr coherent] at h
  simp at h

end Artifact

namespace Snapshot

variable {a b : Snapshot}

/-- From one snapshot to another one the servers stay, and no backend goes away. -/
structure KeepsRoutes (a b : Snapshot) : Prop where
  servers : b.servers = a.servers
  backends : ∀ x ∈ a.backends, ∃ y ∈ b.backends, y.name = x.name

theorem KeepsRoutes.coherent (h : a.KeepsRoutes b) (coherent : a.Coherent) : b.Coherent := by
  obtain ⟨named, distinct, declared⟩ := coherent
  rw [← h.servers] at named distinct declared
  refine ⟨named, distinct, fun v hv l hl => ?_⟩
  obtain ⟨x, hx, name⟩ := declared v hv l hl
  obtain ⟨y, hy, same⟩ := h.backends x hx
  exact ⟨y, hy, same.trans name⟩

theorem KeepsRoutes.of_structural (h : a.structural = b.structural) : a.KeepsRoutes b := by
  obtain ⟨backends, servers, _, _⟩ := Configuration.mk.inj h
  exact ⟨servers.symm, fun x hx => ⟨x, backends ▸ hx, rfl⟩⟩

end Snapshot

end IngressControl
