import IngressControl.FileTree.Basic
import IngressControl.Text.Split

/-!
# Paths

A path is a text of names with slashes between them. Walking it takes one step for each name;
empty names are no steps. Joining a name to a directory's path puts one slash between them, and
an absolute name replaces the directory.
-/

namespace IngressControl

/-- One step of a walk through a file tree. -/
inductive Step where
  /-- The name `.`. -/
  | stay
  /-- The name `..`. -/
  | up
  | down (name : String)
deriving DecidableEq

/-- Whether a step's name holds the character NUL. -/
def Step.hasNul : Step → Bool
  | .down name => name.toList.contains '\x00'
  | _ => false

namespace Path

/-- Whether a path starts from the root. -/
def isAbsolute (path : String) : Bool := path.toList.head? = some '/'

/-- The step for a name. -/
def step (name : List Char) : Step :=
  if name = ['.'] then .stay else if name = ['.', '.'] then .up else .down (String.ofList name)

/-- The steps of a path, one for each name that is not empty. -/
def steps (path : String) : List Step :=
  ((splitAt '/' path.toList).filter (· ≠ [])).map step

/-- Whether a path ends with a slash behind its last name. -/
def endsWithSlash (path : String) : Bool := path.toList.getLast? = some '/'

/-- The steps of a path that has to lead to a directory when it ends with a slash. -/
def allSteps (path : String) : List Step :=
  if endsWithSlash path then steps path ++ [.stay] else steps path

/-- Where the walk along a path starts. -/
def origin (t : FileTree) (path : String) : Trail := if isAbsolute path then [] else t.start

/-- The path of a name in a directory. -/
def join (directory name : String) : String :=
  if isAbsolute name then name
  else if directory = "" ∨ endsWithSlash directory then directory ++ name
  else directory ++ "/" ++ name

/-- The steps to the directory that holds the file of a path, without those that stay. -/
def parent (path : String) : List Step := ((steps path).filter (· ≠ .stay)).dropLast

/-- Rejects texts that are no path: empty ones, those with NUL, and those of 4096 bytes or more. -/
def check (path : String) : Except IoError Unit :=
  if path.toList.contains '\x00' then .error .nulInPath
  else if path = "" then .error .notFound
  else if 4096 ≤ path.utf8ByteSize then .error .nameTooLong
  else .ok ()

end Path

end IngressControl
