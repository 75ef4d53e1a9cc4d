import IngressControl.Proofs.Reconciler.Course
import IngressControl.Reconciler.Script
import Mathlib.Data.List.Induction

/-!
# Histories

What a run came to is told by its outcomes, but a law of runs speaks of what stood before and behind
each reconciliation. A history records that: one `Call` for each snapshot handed in, the first one
first. It is nothing else than the run, seen call by call (`run_eq_history`).

An invariant of histories is proved by `history_induction`, one call at the end at a time.
-/

namespace IngressControl.Reconciler

variable {σ β : Type}

/-- One reconciliation of a run. -/
structure Call (σ : Type) where
  /-- What stood before it. -/
  before : Reconciler × Session σ
  snapshot : Snapshot
  /-- What stood behind it. -/
  after : Reconciler × Session σ
  outcome : Outcome

/-- The actions of a call. -/
def Call.actions (k : Call σ) : List Action := k.after.2.actions.drop k.before.2.actions.length

/-- The call that hands in a snapshot. -/
def callOf (c : Collaborators σ) (settings : ReconcilerSettings) (p : Reconciler × Session σ)
    (snapshot : Snapshot) : Call σ :=
  match p.1.reconcile c settings p.2 snapshot with
  | (r, s, o) => ⟨p, snapshot, (r, s), o⟩

/-- The calls of a run. -/
def history (c : Collaborators σ) (settings : ReconcilerSettings) :
    List Snapshot → Reconciler × Session σ → List (Call σ)
  | [], _ => []
  | snapshot :: rest, p =>
    callOf c settings p snapshot :: history c settings rest (callOf c settings p snapshot).after

/-- What stands behind a run. -/
def reached (c : Collaborators σ) (settings : ReconcilerSettings) (snapshots : List Snapshot)
    (p : Reconciler × Session σ) : Reconciler × Session σ :=
  snapshots.foldl (fun p snapshot => (callOf c settings p snapshot).after) p

variable {c : Collaborators σ} {settings : ReconcilerSettings}

@[simp]
theorem callOf_before (c : Collaborators σ) (settings : ReconcilerSettings)
    (p : Reconciler × Session σ) (x : Snapshot) : (callOf c settings p x).before = p := rfl

@[simp]
theorem callOf_snapshot (c : Collaborators σ) (settings : ReconcilerSettings)
    (p : Reconciler × Session σ) (x : Snapshot) : (callOf c settings p x).snapshot = x := rfl

theorem callOf_course (c : Collaborators σ) (settings : ReconcilerSettings)
    (p : Reconciler × Session σ) (x : Snapshot) :
    Course c settings p.1 p.2 x (callOf c settings p x).after.1 (callOf c settings p x).after.2
      (callOf c settings p x).outcome :=
  reconcile_course c settings p.1 p.2 x

/-- A run is what its history records. -/
theorem run_eq_history : ∀ (xs : List Snapshot) (p : Reconciler × Session σ),
    run c settings xs p = ((reached c settings xs p).1, (reached c settings xs p).2,
      (history c settings xs p).map (·.outcome)) := by
  intro xs
  induction xs with
  | nil => exact fun p => rfl
  | cons x rest ih =>
    intro p
    have step : run c settings (x :: rest) p =
        ((run c settings rest (callOf c settings p x).after).1,
          (run c settings rest (callOf c settings p x).after).2.1,
          (callOf c settings p x).outcome ::
            (run c settings rest (callOf c settings p x).after).2.2) := rfl
    rw [step, ih]
    rfl

theorem history_append : ∀ (xs ys : List Snapshot) (p : Reconciler × Session σ),
    history c settings (xs ++ ys) p =
      history c settings xs p ++ history c settings ys (reached c settings xs p) := by
  intro xs
  induction xs with
  | nil => exact fun ys p => rfl
  | cons x rest ih => exact fun ys p => congrArg (_ :: ·) (ih ys _)

theorem reached_append (xs ys : List Snapshot) (p : Reconciler × Session σ) :
    reached c settings (xs ++ ys) p = reached c settings ys (reached c settings xs p) :=
  List.foldl_append

theorem map_snapshot_history : ∀ (xs : List Snapshot) (p : Reconciler × Session σ),
    (history c settings xs p).map (·.snapshot) = xs := by
  intro xs
  induction xs with
  | nil => exact fun p => rfl
  | cons x rest ih => exact fun p => congrArg (x :: ·) (ih _)

/-- A call of a run is that of a snapshot, and the calls before it are the run up to there. -/
theorem history_split {k : Call σ} {later : List (Call σ)} : ∀ {xs : List Snapshot}
    {before : List (Call σ)} {p : Reconciler × Session σ},
    history c settings xs p = before ++ k :: later →
      ∃ ys x zs, xs = ys ++ x :: zs ∧ before = history c settings ys p ∧
        k = callOf c settings (reached c settings ys p) x := by
  intro xs
  induction xs with
  | nil => exact fun h => absurd h.symm (by simp [history])
  | cons x rest ih =>
    intro before p h
    cases before with
    | nil => exact ⟨[], x, rest, rfl, rfl, (List.cons.inj h).1.symm⟩
    | cons first others =>
      obtain ⟨same, behind⟩ := List.cons.inj h
      obtain ⟨ys, y, zs, rfl, rfl, rfl⟩ := ih behind
      exact ⟨x :: ys, y, zs, rfl, by rw [← same]; rfl, rfl⟩

theorem history_mem {k : Call σ} {xs : List Snapshot} {p : Reconciler × Session σ}
    (h : k ∈ history c settings xs p) :
    ∃ ys, ∃ x ∈ xs, k = callOf c settings (reached c settings ys p) x := by
  obtain ⟨before, later, run⟩ := List.append_of_mem h
  obtain ⟨ys, x, zs, rfl, _, hk⟩ := history_split run
  exact ⟨ys, x, by simp, hk⟩

theorem callOf_mem_history (xs : List Snapshot) (x : Snapshot) (p : Reconciler × Session σ) :
    callOf c settings (reached c settings xs p) x ∈ history c settings (xs ++ [x]) p := by
  rw [history_append]
  exact List.mem_append_right _ List.mem_cons_self

theorem reached_snoc (xs : List Snapshot) (x : Snapshot) (p : Reconciler × Session σ) :
    reached c settings (xs ++ [x]) p = (callOf c settings (reached c settings xs p) x).after := by
  rw [reached, List.foldl_append]
  rfl

/-- **An invariant of histories** holds at the start and is kept by every call. -/
theorem history_induction {P : List (Call σ) → Reconciler × Session σ → Prop}
    {p : Reconciler × Session σ} (init : P [] p) :
    ∀ (xs : List Snapshot), (∀ done q x, x ∈ xs → P done q →
      P (done ++ [callOf c settings q x]) (callOf c settings q x).after) →
      P (history c settings xs p) (reached c settings xs p) := by
  -- the last call is taken off, so that the invariant stands before it
  intro xs
  induction xs using List.reverseRecOn with
  | nil => exact fun _ => init
  | append_singleton xs x ih =>
    intro step
    rw [history_append, reached_snoc]
    exact step _ _ x (by simp) (ih fun done q y hy => step done q y (by simp [hy]))

/-- What a reader looks for among the actions of a call. -/
theorem Call.filterMap_actions {f : Action → Option β} {k : Call σ} {found : List β}
    (h : Session.Sees f k.before.2 k.after.2 found) : k.actions.filterMap f = found := by
  obtain ⟨as, hs, rfl⟩ := h
  rw [Call.actions, hs, List.drop_left]

/-! ## Where sample runs begin -/

/-- Settings with all files right under the root and one attempt for each push. -/
def sampleSettings : ReconcilerSettings where
  configFile := "/nginx.conf"
  store := ⟨"/ssl"⟩
  backoff := { initial := 0, factor := 1.0, jitter := 0.0, steps := 1 }

/-- A session on a disk without files. -/
def opening {σ : Type} (world : σ) : Session σ := { tree := ⟨[], []⟩, world }

theorem opening_lacks {σ : Type} (world : σ) (path : String) : (opening world).tree.Lacks path := by
  rintro content ⟨l, _, m, file⟩
  by_cases root : l = []
  · simp [FileTree.get, root] at file
  · simp [opening, FileTree.get, root, FileTree.nodeAt] at file

end IngressControl.Reconciler
