import IngressControl.Text.Utf8
import IngressControl.Decimal.Digits

/-!
# File trees

A file tree maps trails to directories, files and symbolic links. A trail is the list of
names on the way to it, the innermost first; the root is the empty list and always a directory.
What is not there is absent from the table, so two trees hold the same when `get` agrees.
-/

namespace IngressControl

/-- Why an operation on files fails. -/
inductive IoError where
  | notFound
  | permissionDenied
  | busy
  | exists
  | notADirectory
  | isADirectory
  | noSpace
  | nameTooLong
  | tooManyLinks
  /-- A path holds the character NUL. -/
  | nulInPath
  /-- A command holds the character NUL. -/
  | nulInArgument
  /-- A file to be read as text does not hold UTF-8. -/
  | notText
deriving DecidableEq

namespace IoError

/-- The text of a failure, with the operating system's number for it. -/
def message : IoError → String
  | .notFound => "No such file or directory (os error 2)"
  | .permissionDenied => "Permission denied (os error 13)"
  | .busy => "Device or resource busy (os error 16)"
  | .exists => "File exists (os error 17)"
  | .notADirectory => "Not a directory (os error 20)"
  | .isADirectory => "Is a directory (os error 21)"
  | .noSpace => "No space left on device (os error 28)"
  | .nameTooLong => "File name too long (os error 36)"
  | .tooManyLinks => "Too many levels of symbolic links (os error 40)"
  | .nulInPath => "file name contained an unexpected NUL byte"
  | .nulInArgument => "nul byte found in provided data"
  | .notText => "stream did not contain valid UTF-8"

end IoError

/-- The names on the way from the root, the innermost first. -/
abbrev Trail := List String

/-- What stands at a trail. -/
inductive Node where
  | directory
  | file (mode : Nat) (content : Bytes)
  | link (target : String)
deriving DecidableEq

/-- Files, directories and links, and the directory that relative paths start from. -/
structure FileTree where
  entries : List (Trail × Node)
  /-- The working directory. -/
  start : Trail

namespace FileTree

/-- The node that a table has for a trail. -/
def nodeAt (trail : Trail) : List (Trail × Node) → Option Node
  | [] => none
  | (l, n) :: rest => if l = trail then some n else nodeAt trail rest

/-- A table without its entries for a trail. -/
def without (trail : Trail) (entries : List (Trail × Node)) : List (Trail × Node) :=
  entries.filter fun e => e.1 ≠ trail

theorem nodeAt_without (entries : List (Trail × Node)) (a b : Trail) :
    nodeAt b (without a entries) = if b = a then none else nodeAt b entries := by
  induction entries with
  | nil => simp [without, nodeAt]
  | cons e es ih =>
    obtain ⟨l, n⟩ := e
    simp only [without] at ih
    by_cases hla : l = a
    · subst hla
      by_cases hb : b = l <;> simp_all [without, nodeAt, eq_comm]
    · by_cases hb : b = a
      · subst hb; simp_all [without, nodeAt]
      · simp_all [without, nodeAt]

theorem mem_of_nodeAt {entries : List (Trail × Node)} {l : Trail} {n : Node}
    (h : nodeAt l entries = some n) : (l, n) ∈ entries := by
  induction entries with
  | nil => simp [nodeAt] at h
  | cons e rest ih =>
    rw [nodeAt] at h
    split at h
    · rename_i same
      cases h
      rw [← same]
      exact List.mem_cons_self
    · exact List.mem_cons_of_mem e (ih h)

/-- What stands at a trail. -/
def get (t : FileTree) (trail : Trail) : Option Node :=
  if trail = [] then some .directory else nodeAt trail t.entries

/-- The tree without what stands at a trail. -/
def erase (t : FileTree) (trail : Trail) : FileTree :=
  { t with entries := without trail t.entries }

/-- The tree with a node at a trail, in place of what stood there. -/
def insert (t : FileTree) (trail : Trail) (n : Node) : FileTree :=
  { t with entries := (trail, n) :: without trail t.entries }

theorem get_erase (t : FileTree) (a b : Trail) (ha : a ≠ []) :
    (t.erase a).get b = if b = a then none else t.get b := by
  by_cases hb : b = []
  · subst hb; simp [get, ha.symm]
  · simp [get, erase, nodeAt_without, hb]

theorem get_insert (t : FileTree) (a b : Trail) (n : Node) (ha : a ≠ []) :
    (t.insert a n).get b = if b = a then some n else t.get b := by
  by_cases hb : b = []
  · subst hb; simp [get, ha.symm]
  · by_cases hba : b = a
    · simp [get, insert, nodeAt, hba, ha]
    · simp [get, insert, nodeAt, nodeAt_without, hb, hba, Ne.symm hba]

end FileTree

end IngressControl
