import IngressControl.FileTree.Path

/-!
# Walking a file tree

Every step but the last has to lead to a directory, directly or through links; forty links may be
followed on one walk. Names of more than 255 bytes are refused where they are looked up, so a
directory that is missing before them is noticed first. A link in the last place is followed only
on demand.
-/

namespace IngressControl

/-- Where a walk ends. -/
inductive Place where
  | directory (trail : Trail)
  | file (trail : Trail) (mode : Nat) (content : Bytes)
  | link (trail : Trail) (target : String)
  /-- Nothing stands there, but the directory around it is there. -/
  | vacant (trail : Trail)

namespace FileTree

/-- Walks from the directory `trail`. At a link it goes on with `onLink`, from the directory of the
link, the link's target and the steps behind it. -/
def steps (t : FileTree) (follow : Bool)
    (onLink : Trail → String → List Step → Except IoError Place) :
    (trail : Trail) → List Step → Except IoError Place
  | trail, [] => .ok (.directory trail)
  | trail, .stay :: rest => t.steps follow onLink trail rest
  | trail, .up :: rest => t.steps follow onLink trail.tail rest
  | trail, .down name :: rest =>
    if 255 < name.utf8ByteSize then .error .nameTooLong
    else
      match t.get (name :: trail) with
      | none => if rest = [] then .ok (.vacant (name :: trail)) else .error .notFound
      | some .directory => t.steps follow onLink (name :: trail) rest
      | some (.file mode content) =>
        if rest = [] then .ok (.file (name :: trail) mode content) else .error .notADirectory
      | some (.link target) =>
        if rest = [] ∧ !follow then .ok (.link (name :: trail) target) else onLink trail target rest

/-- Walks from the directory `trail`, following at most `links` links. -/
def walk (t : FileTree) (follow : Bool) :
    (links : Nat) → (trail : Trail) → List Step → Except IoError Place
  | 0 => t.steps follow fun _ _ _ => .error .tooManyLinks
  | links + 1 => t.steps follow fun trail target rest =>
    t.walk follow links (if Path.isAbsolute target then [] else trail) (Path.allSteps target ++ rest)

/-- How many links one walk follows. -/
def maxLinks : Nat := 40

/-- The place of a path. -/
def locate (t : FileTree) (follow : Bool) (path : String) : Except IoError Place :=
  match Path.check path with
  | .error e => .error e
  | .ok () => t.walk follow maxLinks (Path.origin t path) (Path.allSteps path)

/-- The directory that some steps lead to. -/
def directoryAt (t : FileTree) (trail : Trail) (steps : List Step) : Except IoError Trail :=
  match t.walk true maxLinks trail (steps ++ [.stay]) with
  | .ok (.directory found) => .ok found
  | .ok _ => .error .notADirectory
  | .error e => .error e

/-- The content of the file at a path. -/
def read (t : FileTree) (path : String) : Except IoError Bytes :=
  match t.locate true path with
  | .error e => .error e
  | .ok (.file _ _ content) => .ok content
  | .ok (.vacant _) => .error .notFound
  | .ok _ => .error .isADirectory

/-- The text of the file at a path. -/
def readText (t : FileTree) (path : String) : Except IoError String :=
  match t.read path with
  | .error e => .error e
  | .ok content =>
    match Utf8.decode? content with
    | some text => .ok text
    | none => .error .notText

end FileTree

end IngressControl
