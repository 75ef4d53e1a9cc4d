import IngressControl.Proofs.FileTree.AtomicWrite

/-!
# What one path holds over many writes

A controller writes several paths over and over. `Holds t₀ q last t` follows one of them, `q`, from
the tree `t₀` that all began with: what was last written there can be read there, and as long as
nothing was written there the path shows no more than it did in `t₀`.

Writes elsewhere keep this when their paths are apart from `q` in `t₀`. No later tree has to be asked
again, since rewriting never brings two paths together.
-/

namespace IngressControl.FileTree

variable {t₀ t t' : FileTree} {q : String} {c : Bytes} {last : Option Bytes}

/-- What a path holds in `t`, when `last` was written there last since `t₀`. -/
structure Holds (t₀ : FileTree) (q : String) (last : Option Bytes) (t : FileTree) : Prop where
  rewritten : ∃ ps, t₀.Rewrites ps t
  /-- What was written last can be read. -/
  written : ∀ c, last = some c → t.read q = .ok c
  /-- Nothing was written so far, except apart from the path. -/
  unwritten : last = none → ∃ ps, (∀ p ∈ ps, t₀.Apart p q) ∧ t₀.Rewrites ps t

theorem holds_init (t₀ : FileTree) (q : String) : t₀.Holds q none t₀ where
  rewritten := ⟨[], Rewrites.refl t₀ []⟩
  written := by simp
  unwritten := fun _ => ⟨[], by simp, Rewrites.refl t₀ []⟩

namespace Holds

theorem apart (h : t₀.Holds q last t) {p r : String} (apart : t₀.Apart p r) : t.Apart p r := by
  obtain ⟨ps, hps⟩ := h.rewritten
  exact hps.apart apart

theorem straight (h : t₀.Holds q last t) {p : String} (straight : t₀.Straight p) :
    t.Straight p := by
  obtain ⟨ps, hps⟩ := h.rewritten
  exact hps.straight straight

/-- **Writes apart from a path leave what it holds.** -/
theorem elsewhere (h : t₀.Holds q last t) {ps : List String} (apart : ∀ p ∈ ps, t₀.Apart p q)
    (wrote : t.Rewrites ps t') : t₀.Holds q last t' := by
  refine ⟨?_, fun c hc => ?_, fun hnone => ?_⟩
  · obtain ⟨rs, hrs⟩ := h.rewritten
    exact ⟨rs ++ ps, (hrs.mono (by simp)).trans (wrote.mono (by simp))⟩
  · exact wrote.read (fun p hp => h.apart (apart p hp)) (h.written c hc)
  · obtain ⟨rs, hapart, hrs⟩ := h.unwritten hnone
    refine ⟨rs ++ ps, fun p hp => ?_, (hrs.mono (by simp)).trans (wrote.mono (by simp))⟩
    rcases List.mem_append.mp hp with hp | hp
    · exact hapart p hp
    · exact apart p hp

/-- Making directories leaves what a path holds. -/
theorem grown (h : t₀.Holds q last t) (wrote : t.Rewrites [] t') : t₀.Holds q last t' :=
  h.elsewhere (by simp) wrote

/-- A write to the path itself takes the place of the one before. -/
theorem overwritten (h : t₀.Holds q last t) (wrote : t.Rewrites [q] t')
    (hr : t'.read q = .ok c) : t₀.Holds q (some c) t' := by
  refine ⟨?_, fun d hd => ?_, by simp⟩
  · obtain ⟨rs, hrs⟩ := h.rewritten
    exact ⟨rs ++ [q], (hrs.mono (by simp)).trans (wrote.mono (by simp))⟩
  · cases hd; exact hr

/-- What can be read was written last, or it stood there from the beginning. -/
theorem of_read (h : t₀.Holds q last t) (hr : t.read q = .ok c) :
    last = some c ∨ (last = none ∧ t₀.Shows q c) := by
  cases hlast : last with
  | some d =>
    have hd := h.written d hlast
    rw [hr] at hd
    cases hd
    exact Or.inl rfl
  | none =>
    obtain ⟨ps, apart, hps⟩ := h.unwritten hlast
    exact Or.inr ⟨rfl, hps.shows_of_read apart hr⟩

end Holds

end IngressControl.FileTree
