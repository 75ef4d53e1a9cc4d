import IngressControl.FileTree.Walk
import IngressControl.Snapshot.Format

/-!
# Where snapshots come from

A snapshot is loaded from a file of JSON text. A watched file is loaded anew at each change, and
what is no snapshot then is passed over. Of snapshots that queue up only the newest is of interest:
the last one of those with the greatest generation.
-/

namespace IngressControl

/-- Why a file gives no snapshot. -/
inductive LoadError where
  | io (cause : IoError)
  | parse (problem : Json.Problem)

/-- The text of a failure to read the file. -/
def LoadError.ioMessage (cause : IoError) : String := "IO error: " ++ cause.message

namespace Snapshot

/-- Loads the snapshot in a file. -/
def load (t : FileTree) (path : String) : Except LoadError Snapshot :=
  match t.readText path with
  | .error e => .error (.io e)
  | .ok content =>
    match parse content with
    | .error e => .error (.parse e)
    | .ok s => .ok s

/-- Whether a file can be watched: something has to stand at its path. -/
def canWatch (t : FileTree) (path : String) : Bool :=
  match t.locate true path with
  | .ok (.vacant _) => false
  | .ok _ => true
  | .error _ => false

/-- What a watched file delivers when it has changed. -/
def delivered? (t : FileTree) (path : String) : Option Snapshot := (load t path).toOption

/-- The newer of two snapshots, the second one when they are of one generation. -/
def newer (a b : Snapshot) : Snapshot := if a.generation ≤ b.generation then b else a

/-- Takes snapshots off a queue for as long as it has one. What comes out is the newest of them and of the
snapshot in hand, and the queue that is left. -/
def coalesce (inHand : Snapshot) : List Snapshot → Snapshot × List Snapshot
  | [] => (inHand, [])
  | next :: queue => coalesce (newer inHand next) queue

end Snapshot

end IngressControl
