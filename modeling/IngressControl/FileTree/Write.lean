import IngressControl.FileTree.Walk

/-!
# Writing files in one move

`writeAtomic` makes the missing directories on the way, writes a new file beside the old one,
makes it the owner's alone and renames it over the old one. Readers see the old file or the whole
new one. When a stage fails, the new file is removed again; directories that were made stay.

Each stage may also fail for reasons outside of the tree, such as a full disk: `Faults` says which. The
directories are made one by one, so the disk may fail when some of them are there and others are not.
-/

namespace IngressControl

/-- The permission bits of every file written: read and write for the owner. -/
def ownerOnly : Nat := 0o600

/-- What is asked of the disk. -/
inductive DiskOperation where
  | readFile
  /-- To make the directory that has so many steps in front of it, at once or `again` when those above
  it are there. -/
  | makeDirectory (depth : Nat) (again : Bool)
  | openTemporary
  | writeTemporary
  | setMode
  | rename
deriving DecidableEq

/-- The operations that fail whatever the tree holds. -/
abbrev Faults := DiskOperation → Option IoError

/-- A disk that does what it is asked. -/
def noFaults : Faults := fun _ => none

namespace FileTree

/-- Makes the directory that the steps lead to; the last step comes first. -/
def makeDirectory (t : FileTree) (base : Trail) : List Step → Except IoError FileTree
  | [] => .error .exists
  | last :: above =>
    match t.directoryAt base above.reverse, last with
    | .error e, _ => .error e
    | .ok holder, .down name =>
      if 255 < name.utf8ByteSize then .error .nameTooLong
      else
        match t.get (name :: holder) with
        | some _ => .error .exists
        | none => .ok (t.insert (name :: holder) .directory)
    | .ok _, _ => .error .exists

/-- Makes the directory that the steps lead to, if the disk does not fail. -/
def tryDirectory (t : FileTree) (faults : Faults) (again : Bool) (base : Trail) (last : Step)
    (above : List Step) : Except IoError FileTree :=
  match faults (.makeDirectory above.length again) with
  | some e => .error e
  | none => t.makeDirectory base (last :: above)

/-- Whether the steps lead to a directory. -/
def isDirectory (t : FileTree) (base : Trail) (steps : List Step) : Bool :=
  match t.walk true maxLinks base steps with
  | .ok (.directory _) => true
  | _ => false

/-- Makes the directory that the steps lead to, and those above it that are missing; the last step
comes first. -/
def makeDirectories (t : FileTree) (faults : Faults) (base : Trail) :
    List Step → FileTree × Except IoError Unit
  | [] => (t, .ok ())
  | last :: above =>
    match t.tryDirectory faults false base last above with
    | .ok made => (made, .ok ())
    | .error .notFound =>
      match t.makeDirectories faults base above with
      | (t, .error e) => (t, .error e)
      | (t, .ok ()) =>
        match t.tryDirectory faults true base last above with
        | .ok made => (made, .ok ())
        | .error e =>
          if t.isDirectory base (last :: above).reverse then (t, .ok ()) else (t, .error e)
    | .error e =>
      if t.isDirectory base (last :: above).reverse then (t, .ok ()) else (t, .error e)

/-- The name of a temporary file. -/
def temporaryName (n : Nat) : String := ".tmp-" ++ String.ofList (Decimal.ofNat n)

/-- A trail in a directory where nothing stands. A directory has no more names than the tree
has entries, so one of the first candidates is free. -/
def freshTrail? (t : FileTree) (directory : Trail) : Option Trail :=
  ((List.range (t.entries.length + 1)).map fun n => temporaryName n :: directory).find? fun trail =>
    (t.get trail).isNone

/-- Moves the file at `source` to a path. The path must not end in a slash, `.` or `..`, and no
directory may stand there; a link there is replaced. -/
def rename (t : FileTree) (source : Trail) (n : Node) (path : String) : Except IoError FileTree :=
  match Path.check path with
  | .error e => .error e
  | .ok () =>
    match t.directoryAt (Path.origin t path) (Path.steps path).dropLast with
    | .error e => .error e
    | .ok holder =>
      match (Path.steps path).getLast? with
      | some (.down name) =>
        if 255 < name.utf8ByteSize then .error .nameTooLong
        else if Path.endsWithSlash path then .error .notADirectory
        else if t.get (name :: holder) = some .directory then .error .isADirectory
        else .ok ((t.erase source).insert (name :: holder) n)
      | _ => .error .busy

/-- Writes a temporary file into `directory` and moves it to the path. -/
def replace (t : FileTree) (faults : Faults) (directory : Trail) (path : String)
    (content : Bytes) : FileTree × Except IoError Unit :=
  match faults .openTemporary, t.freshTrail? directory with
  | some e, _ => (t, .error e)
  | none, none => (t, .error .exists)
  | none, some temporary =>
    let opened := t.insert temporary (.file ownerOnly [])
    match faults .writeTemporary with
    | some e => (opened.erase temporary, .error e)
    | none =>
      let written := opened.insert temporary (.file ownerOnly content)
      match faults .setMode, faults .rename with
      | some e, _ => (written.erase temporary, .error e)
      | none, some e => (written.erase temporary, .error e)
      | none, none =>
        match written.rename temporary (.file ownerOnly content) path with
        | .ok moved => (moved, .ok ())
        | .error e => (written.erase temporary, .error e)

/-- Replaces the file at a path in one move, making the directories on the way. -/
def writeAtomic (t : FileTree) (faults : Faults) (path : String) (content : Bytes) :
    FileTree × Except IoError Unit :=
  if (Path.parent path).any Step.hasNul then (t, .error .nulInPath)
  else
    match t.makeDirectories faults (Path.origin t path) (Path.parent path).reverse with
    | (t, .error e) => (t, .error e)
    | (t, .ok ()) =>
      match t.directoryAt (Path.origin t path) (Path.parent path) with
      | .error e => (t, .error e)
      | .ok directory => t.replace faults directory path content

end FileTree

end IngressControl
