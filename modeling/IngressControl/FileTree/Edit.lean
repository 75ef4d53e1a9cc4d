import IngressControl.FileTree.Write

/-!
# Changes made by others

What an operator may do to the files between two calls: write a file in place, through links and
readable for all; make directories; make links; remove what stands at a path.
-/

namespace IngressControl

/-- The permission bits of a file that all may read. -/
def readableByAll : Nat := 0o644

namespace FileTree

/-- Makes the directories on the way to a path. -/
def prepare (t : FileTree) (path : String) : FileTree :=
  (t.makeDirectories noFaults (Path.origin t path) (Path.parent path).reverse).1

/-- Writes a file in place. -/
def put (t : FileTree) (path : String) (content : Bytes) : Except IoError FileTree :=
  let t := t.prepare path
  match t.locate true path with
  | .error e => .error e
  | .ok (.file trail _ _) => .ok (t.insert trail (.file readableByAll content))
  | .ok (.vacant trail) => .ok (t.insert trail (.file readableByAll content))
  | .ok _ => .error .isADirectory

/-- Makes a directory and those on the way to it. -/
def makeDirectoryAt (t : FileTree) (path : String) : Except IoError FileTree :=
  let steps := (Path.steps path).filter (· ≠ .stay)
  match t.makeDirectories noFaults (Path.origin t path) steps.reverse with
  | (t, .ok ()) => .ok t
  | (_, .error e) => .error e

/-- Makes a link. -/
def makeLink (t : FileTree) (path target : String) : Except IoError FileTree :=
  let t := t.prepare path
  match t.locate false path with
  | .error e => .error e
  | .ok (.vacant trail) => .ok (t.insert trail (.link target))
  | .ok _ => .error .exists

/-- Removes what stands at a path, with all that is in it. -/
def remove (t : FileTree) (path : String) : Except IoError FileTree :=
  match t.locate false path with
  | .error e => .error e
  | .ok (.file trail _ _) => .ok (t.erase trail)
  | .ok (.link trail _) => .ok (t.erase trail)
  | .ok (.directory trail) =>
    .ok { t with entries := t.entries.filter fun e => !(trail <:+ e.1) }
  | .ok (.vacant _) => .error .notFound

/-- The path of a trail relative to the working directory, if it lies in it. -/
def relativePath? (t : FileTree) (trail : Trail) : Option String :=
  if t.start <:+ trail ∧ trail ≠ t.start then
    some ("/".intercalate (trail.take (trail.length - t.start.length)).reverse)
  else none

/-- The path under which a node is listed: that of a directory ends with a slash. -/
def listedPath? (t : FileTree) (trail : Trail) (n : Node) : Option String :=
  (t.relativePath? trail).map fun path => if n = .directory then path ++ "/" else path

/-- What is in the working directory, by the paths under which it is listed. -/
def listing (t : FileTree) : List (String × Node) :=
  t.entries.filterMap fun (trail, n) => (t.listedPath? trail n).map (·, n)

/-- What differs between two trees: the new nodes, and `none` for what is gone. -/
def changes (before after : FileTree) : List (String × Option Node) :=
  let old := before.listing
  let new := after.listing
  (old.filter fun (path, _) => (new.lookup path).isNone).map (fun (path, _) => (path, none)) ++
    (new.filter fun (path, n) => old.lookup path ≠ some n).map (fun (path, n) => (path, some n))

end FileTree

end IngressControl
