import IngressControl.Backoff
import IngressControl.Reconciler.Action

/-!
# Sessions

A session is what reconciliations meet outside of the reconciler: the file tree, the state of the
collaborators, the clock and the record of all actions. The collaborators are functions on a state
of their own, so a script of answers, a real renderer or a model of the control surface all fit.

The clock counts milliseconds. A sleep ends at the first whole millisecond at or behind its due
time, and one too long for the clock ends after thirty years.
-/

namespace IngressControl

/-- Those that a reconciler works with. Each answers and moves on to its next state. -/
structure Collaborators (σ : Type) where
  render : σ → Snapshot → RenderContext → Except RenderError String × σ
  /-- The dry run of an artifact: its result and how many milliseconds it takes. -/
  dryRun : σ → String → Except CommandError Unit × Nat × σ
  reload : σ → Except CommandError Unit × σ
  /-- One attempt at the control surface, with the new configuration and the one it replaces. -/
  configure : σ → (new old : Configuration) → Except ControlError Unit × σ
  /-- A random number between zero and a bound. -/
  draw : σ → (bound : Float) → Float × σ
  /-- How the disk behaves while one file is written. -/
  disk : σ → Faults × σ

/-- What reconciliations meet. -/
structure Session (σ : Type) where
  tree : FileTree
  world : σ
  /-- The time in milliseconds. -/
  now : Nat := 0
  /-- All actions so far, the last one last. -/
  actions : List Action := []

namespace Session

variable {σ : Type}

/-- Adds an action to the record. -/
def record (s : Session σ) (a : Action) : Session σ := { s with actions := s.actions ++ [a] }

/-- The milliseconds that a sleep of some nanoseconds takes. -/
def sleepTime (nanos : Nat) : Nat :=
  if nanos = longestDuration then 30 * 365 * 24 * 60 * 60 * 1000
  else (nanos + 999999) / 1000000

/-- Lets time pass. -/
def sleep (s : Session σ) (nanos : Nat) : Session σ := { s with now := s.now + sleepTime nanos }

end Session

end IngressControl
