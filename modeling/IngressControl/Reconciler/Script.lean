import IngressControl.Reconciler.Session

/-!
# Scripted collaborators

Collaborators whose answers are laid down in advance, one queue for each kind of call. When a queue
is empty the call succeeds; the artifact is then rendered for real.
-/

namespace IngressControl

/-- An answer of the renderer. -/
inductive Rendering where
  /-- Render the snapshot. -/
  | real
  /-- Give this text. -/
  | text (artifact : String)
  /-- Fail to write. -/
  | unwritable
deriving DecidableEq

/-- The answers still to be given; `none` is success. -/
structure Script where
  renderings : List Rendering := []
  dryRuns : List (Option CommandError) := []
  reloads : List (Option CommandError) := []
  pushes : List (Option ControlError) := []
  /-- How many milliseconds a dry run takes. -/
  dryRunTime : Nat := 0

namespace Script

/-- The first answer of a queue as a result. -/
def next {ε : Type} (queue : List (Option ε)) : Except ε Unit :=
  match queue with
  | some e :: _ => .error e
  | _ => .ok ()

/-- The first rendering of a queue. -/
def rendered (queue : List Rendering) (snapshot : Snapshot) (context : RenderContext) :
    Except RenderError String :=
  match queue with
  | .text artifact :: _ => .ok artifact
  | .unwritable :: _ => .error .formatting
  | _ => Artifact.render snapshot context

/-- The collaborators that follow a script, on a disk without faults. -/
def collaborators : Collaborators Script where
  render s snapshot context :=
    (rendered s.renderings snapshot context, { s with renderings := s.renderings.tail })
  dryRun s _ := (next s.dryRuns, s.dryRunTime, { s with dryRuns := s.dryRuns.tail })
  reload s := (next s.reloads, { s with reloads := s.reloads.tail })
  configure s _ _ := (next s.pushes, { s with pushes := s.pushes.tail })
  draw s _ := (0.0, s)
  disk s := (noFaults, s)

end Script

end IngressControl
