import IngressControl.FileTree.Write
import IngressControl.Material

/-!
# The store of TLS material

Material is kept in files under one directory, named after it. A file that already holds the same
content is left alone; any other is replaced in one move. What is on disk is hashed each time, so a
file that somebody changed is repaired.
-/

namespace IngressControl

/-- Why material is not stored. -/
inductive StoreError where
  /-- The name cannot be the name of a file in the directory. -/
  | invalidName (name : String)
  /-- The file cannot be read or written. -/
  | io (path : String) (cause : IoError)
deriving DecidableEq

/-- The text of a failure to store. -/
def StoreError.message : StoreError → String
  | .invalidName name => "invalid file name '" ++ name ++ "'"
  | .io path cause => "failed to write " ++ path ++ ": " ++ cause.message

/-- Where material was stored, and whether the file had to be written. -/
structure Stored where
  path : String
  changed : Bool
deriving DecidableEq

/-- The directory that holds the material. -/
structure MaterialStore where
  directory : String

namespace MaterialStore

/-- The name of the file for a certificate without a name. -/
def placeholderName : String := "default-fake-certificate"

/-- The name that a certificate's file goes by. -/
def fileName (name : String) : String := if name = "" then placeholderName else name

/-- The path of the file for a name. -/
def pathOf (store : MaterialStore) (name : String) : String :=
  Path.join store.directory (name ++ ".pem")

/-- The path of a certificate's file. -/
def certificatePath (store : MaterialStore) (name : String) : String :=
  store.pathOf (fileName name)

/-- The path of the file for Diffie-Hellman parameters. -/
def dhParamPath (store : MaterialStore) (name : String) : String := store.pathOf name

/-- Whether a name stays inside the directory. -/
def isValidName (name : String) : Bool :=
  name ≠ "" && name ≠ "." && name ≠ ".." &&
    !name.toList.any fun c => c = '/' || c = '\\' || c = '\x00'

/-- Whether the file at a path has to be written to hold the content. -/
def needsWrite (t : FileTree) (faults : Faults) (path : String) (content : Bytes) :
    Except IoError Bool :=
  match faults .readFile with
  | some e => if e = .notFound then .ok true else .error e
  | none =>
    match t.read path with
    | .ok found => .ok (contentIdentity found ≠ contentIdentity content)
    | .error .notFound => .ok true
    | .error e => .error e

/-- Brings the file at a path in step with the content. -/
def store (t : FileTree) (faults : Faults) (path : String) (content : Bytes) :
    FileTree × Except StoreError Stored :=
  match needsWrite t faults path content with
  | .error e => (t, .error (.io path e))
  | .ok false => (t, .ok ⟨path, false⟩)
  | .ok true =>
    match t.writeAtomic faults path content with
    | (t, .error e) => (t, .error (.io path e))
    | (t, .ok ()) => (t, .ok ⟨path, true⟩)

/-- Stores a certificate under its name, or under the placeholder when it has none. -/
def storeCertificate (s : MaterialStore) (t : FileTree) (faults : Faults) (name : String)
    (content : Bytes) : FileTree × Except StoreError Stored :=
  if name ≠ "" ∧ !isValidName name then (t, .error (.invalidName name))
  else store t faults (s.certificatePath name) content

/-- Stores Diffie-Hellman parameters under their name. -/
def storeDhParam (s : MaterialStore) (t : FileTree) (faults : Faults) (name : String)
    (content : Bytes) : FileTree × Except StoreError Stored :=
  if !isValidName name then (t, .error (.invalidName name))
  else store t faults (s.dhParamPath name) content

end MaterialStore

end IngressControl
