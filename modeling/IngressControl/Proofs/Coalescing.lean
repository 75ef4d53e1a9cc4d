import IngressControl.Proofs.Convergence
import IngressControl.Snapshot.Source

/-!
# Coalescing

Snapshots that queue up are coalesced: one of them is reconciled in place of all. It is the last of those
with the greatest generation (`coalesce_lastNewest`), whatever the order they came in.

The reconciler breaks ties the other way, since a snapshot of the generation that it remembers is stale.
So a queue with two snapshots of one generation may leave another snapshot behind than the one that was
picked from it, and only the generation is the same. When the generations differ, coalescing is not seen
at all in what is remembered.
-/

namespace IngressControl

namespace Snapshot

variable {x y : Snapshot} {xs : List Snapshot}

/-- The last of the snapshots of the greatest generation: none before it is newer, and all behind it are
older. -/
def LastNewest (x : Snapshot) (xs : List Snapshot) : Prop :=
  ∃ before after, xs = before ++ x :: after ∧
    (∀ y ∈ before, y.generation ≤ x.generation) ∧ ∀ y ∈ after, y.generation < x.generation

theorem LastNewest.newest (h : x.LastNewest xs) : x.Newest xs := by
  obtain ⟨before, after, rfl, notNewer, older⟩ := h
  refine ⟨by simp, fun y hy => ?_⟩
  rcases List.mem_append.mp hy with hy | hy
  · exact notNewer y hy
  · rcases List.mem_cons.mp hy with rfl | hy
    · exact Int64.le_refl _
    · exact Int64.le_of_lt (older y hy)

/-- One more snapshot off the queue. -/
theorem LastNewest.snoc (h : x.LastNewest xs) : (newer x y).LastNewest (xs ++ [y]) := by
  by_cases le : x.generation ≤ y.generation
  · rw [newer, if_pos le]
    exact ⟨xs, [], rfl, fun z hz => Int64.le_trans (h.newest.above z hz) le, by simp⟩
  · rw [newer, if_neg le]
    obtain ⟨before, after, rfl, notNewer, older⟩ := h
    refine ⟨before, after ++ [y], by simp, notNewer, List.forall_mem_append.mpr ⟨older, ?_⟩⟩
    simpa using Int64.not_le.mp le

/-- The loop ends when the queue is used up, and not before. -/
theorem coalesce_queue (first : Snapshot) (queue : List Snapshot) : (coalesce first queue).2 = [] := by
  induction queue generalizing first with
  | nil => rfl
  | cons next queue ih => rw [coalesce, ih]

theorem coalesce_snoc (first : Snapshot) (queue : List Snapshot) (y : Snapshot) :
    (coalesce first (queue ++ [y])).1 = newer (coalesce first queue).1 y := by
  -- the loop runs along the front of the queue, with another snapshot in hand each time
  induction queue generalizing first with
  | nil => rfl
  | cons next queue ih => rw [List.cons_append, coalesce, coalesce, ih]

theorem coalesce_lastNewest (first : Snapshot) (queue : List Snapshot) :
    (coalesce first queue).1.LastNewest (first :: queue) := by
  induction queue using List.reverseRecOn with
  | nil => exact ⟨[], [], rfl, by simp, by simp⟩
  | append_singleton queue y ih =>
    rw [coalesce_snoc, ← List.cons_append]
    exact ih.snoc

theorem newest_singleton (x : Snapshot) : x.Newest [x] := ⟨by simp, by simp⟩

end Snapshot

namespace Settled

variable {a b b' : Applied} {xs ys : List Snapshot} {x : Snapshot}

/-- Two runs from one memory agree on the generation when one snapshot is the newest in both. -/
theorem generation_agree (h : Settled a xs b) (h' : Settled a ys b') (newest : x.Newest xs)
    (newest' : x.Newest ys) : b.generation = b'.generation := by
  by_cases newer : x.NewerThan a.generation
  · rw [h.generation_eq newest newer, h'.generation_eq newest' newer]
  · rw [h.eq_of_newest_old newest newer, h'.eq_of_newest_old newest' newer]

/-- They agree on the whole memory when the generations of each tell the snapshots apart. -/
theorem agree (h : Settled a xs b) (h' : Settled a ys b') (newest : x.Newest xs)
    (newest' : x.Newest ys) (distinct : (xs.map (·.generation)).Nodup)
    (distinct' : (ys.map (·.generation)).Nodup) : b = b' := by
  by_cases newer : x.NewerThan a.generation
  · rw [h.eq_of_newest distinct newest newer, h'.eq_of_newest distinct' newest' newer]
  · rw [h.eq_of_newest_old newest newer, h'.eq_of_newest_old newest' newer]

end Settled

namespace Reconciler

open Snapshot

variable {σ : Type}

/-- **Coalescing loses nothing.** The queue is left empty, and what comes off it is the last of the newest
snapshots. Behind any run, reconciling it alone leaves the same generation as reconciling the snapshots
one after the other, when no failure meets the calls of either. It leaves the same memory as a whole when
no two of the snapshots have one generation. -/
theorem coalesce_loses_nothing (c : Collaborators σ) (settings : ReconcilerSettings) (s₀ : Session σ)
    (xs : List Snapshot) (first : Snapshot) (queue : List Snapshot) :
    (coalesce first queue).2 = [] ∧
      (coalesce first queue).1.LastNewest (first :: queue) ∧
      (Distinguished (configurations (xs ++ first :: queue)) →
        Smooth c settings
          (history c settings [(coalesce first queue).1] (reached c settings xs (start, s₀))) →
        Smooth c settings (history c settings (first :: queue) (reached c settings xs (start, s₀))) →
        (reached c settings (xs ++ [(coalesce first queue).1]) (start, s₀)).1.appliedGeneration =
            (reached c settings (xs ++ first :: queue) (start, s₀)).1.appliedGeneration ∧
          (((first :: queue).map (·.generation)).Nodup →
            (reached c settings (xs ++ [(coalesce first queue).1]) (start, s₀)).1.applied =
              (reached c settings (xs ++ first :: queue) (start, s₀)).1.applied)) := by
  have last := coalesce_lastNewest first queue
  refine ⟨coalesce_queue first queue, last, fun distinguished smoothAlone smooth => ?_⟩
  obtain ⟨earlier, new⟩ := List.forall_mem_append.mp fun y (hy : y ∈ xs ++ first :: queue) =>
    (List.mem_map_of_mem hy : y.structural ∈ configurations (xs ++ first :: queue))
  have alone := settled_reached distinguished earlier
    (List.forall_mem_singleton.mpr (new _ last.newest.mem)) smoothAlone
  have each := settled_reached distinguished earlier new smooth
  have newest := newest_singleton (coalesce first queue).1
  exact ⟨alone.generation_agree each newest last.newest,
    fun distinct => alone.agree each newest last.newest (by simp) distinct⟩

/-- The server as it stands, and behind it in the queue its move to another port and the server again. -/
def queuedServers : List Snapshot := [servedElsewhere.renewed 4, served.renewed 3]

/-- The law says that the move is picked, which is neither the first of them nor the last. -/
theorem queuedServers_coalesced :
    Distinguished (configurations ([served] ++ served.renewed 2 :: queuedServers)) ∧
      Smooth Script.collaborators sampleSettings (history Script.collaborators sampleSettings
        [(coalesce (served.renewed 2) queuedServers).1]
        (reached Script.collaborators sampleSettings [served] (start, opening {}))) ∧
      Smooth Script.collaborators sampleSettings (history Script.collaborators sampleSettings
        (served.renewed 2 :: queuedServers)
        (reached Script.collaborators sampleSettings [served] (start, opening {}))) ∧
      ((served.renewed 2 :: queuedServers).map (·.generation)).Nodup ∧
      (coalesce (served.renewed 2) queuedServers).1 = servedElsewhere.renewed 4 ∧
      (reached Script.collaborators sampleSettings
          ([served] ++ [(coalesce (served.renewed 2) queuedServers).1]) (start, opening {})).1.applied =
        (reached Script.collaborators sampleSettings
          ([served] ++ served.renewed 2 :: queuedServers) (start, opening {})).1.applied := by
  have distinguished : Distinguished (configurations
      ([served] ++ served.renewed 2 :: queuedServers)) := served_distinguished.mono (by decide)
  have smoothAlone : Smooth Script.collaborators sampleSettings (history Script.collaborators
      sampleSettings [(coalesce (served.renewed 2) queuedServers).1]
      (reached Script.collaborators sampleSettings [served] (start, opening {}))) :=
    (smooth_iff _ _).mpr (by decide +kernel)
  have smooth : Smooth Script.collaborators sampleSettings (history Script.collaborators
      sampleSettings (served.renewed 2 :: queuedServers)
      (reached Script.collaborators sampleSettings [served] (start, opening {}))) :=
    (smooth_iff _ _).mpr (by decide +kernel)
  have distinct : ((served.renewed 2 :: queuedServers).map (·.generation)).Nodup := by decide
  have law := (coalesce_loses_nothing Script.collaborators sampleSettings (opening {}) [served]
    (served.renewed 2) queuedServers).2.2 distinguished smoothAlone smooth
  exact ⟨distinguished, smoothAlone, smooth, distinct, by decide, law.2 distinct⟩

/-- Two snapshots of one generation: the second one is picked, but it is stale behind the first. -/
example :
    (reached Script.collaborators sampleSettings
        [served, (coalesce (served.renewed 2) [servedElsewhere.renewed 2]).1]
        (start, opening {})).1.applied.snapshot = some (servedElsewhere.renewed 2) ∧
      (reached Script.collaborators sampleSettings
        [served, served.renewed 2, servedElsewhere.renewed 2]
        (start, opening {})).1.applied.snapshot = some (served.renewed 2) := by
  decide +kernel

end Reconciler

end IngressControl
