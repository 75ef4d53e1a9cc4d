import IngressControl.FileTree.Walk

/-!
# Finding programs

A binary with a slash in its name is the file at that path. A bare name is looked for in the
directories of a search path; the first file that may be run is taken, and a file that may not be
run is only remembered for the failure.
-/

namespace IngressControl.FileTree

/-- Whether a file with these permission bits may be run by somebody. -/
def isRunnable (mode : Nat) : Bool := mode &&& 0o111 ≠ 0

/-- The file that is run for a path. -/
def programAt (t : FileTree) (path : String) : Except IoError Trail :=
  match t.locate true path with
  | .error e => .error e
  | .ok (.file trail mode _) =>
    if isRunnable mode then .ok trail else .error .permissionDenied
  | .ok (.vacant _) => .error .notFound
  | .ok _ => .error .permissionDenied

/-- Looks for a bare name in the directories of a search path. -/
def searchProgram (t : FileTree) (name : String) (failure : IoError) :
    List String → Except IoError Trail
  | [] => .error failure
  | directory :: rest =>
    match t.programAt (Path.join directory name) with
    | .ok trail => .ok trail
    | .error .permissionDenied => t.searchProgram name .permissionDenied rest
    | .error .notFound => t.searchProgram name failure rest
    | .error .notADirectory => t.searchProgram name failure rest
    | .error e => .error e

/-- The file that is run for the name of a binary. -/
def program (t : FileTree) (search : List String) (binary : String) : Except IoError Trail :=
  if binary.toList.contains '\x00' then .error .nulInArgument
  else if binary.toList.contains '/' then t.programAt binary
  else if binary = "" then .error .notFound
  else t.searchProgram binary .notFound search

end IngressControl.FileTree
