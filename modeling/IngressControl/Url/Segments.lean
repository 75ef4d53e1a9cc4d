import IngressControl.Url

/-!
# Paths of URLs

The names of a path have slashes between them. A name of one dot stands for nothing, and one of two
dots takes the name in front of it away; either leaves an empty name at the end of a path. The first
name of a file's path may be a drive letter, which is never taken away.
-/

namespace IngressControl.Url

/-- The names of a path that read as one dot, in lower case. -/
def oneDot : List String := [".", "%2e"]

/-- The names of a path that read as two dots, in lower case. -/
def twoDots : List String := ["..", ".%2e", "%2e.", "%2e%2e"]

/-- Whether a name is a drive letter with one of some marks behind it. -/
def isDrive (marks : List Char) : List Char → Bool
  | [letter, mark] => letter.isAlpha && marks.contains mark
  | _ => false

/-- Whether a character has to be encoded in a path. -/
def isReservedInPath (c : Char) : Bool :=
  [' ', '"', '<', '>', '`', '#', '?', '{', '}'].contains c

/-- A name in its written form; the mark of a drive letter at the front becomes a colon. -/
def segment (kind : SchemeKind) (isFirst : Bool) (name : List Char) : String :=
  if kind = .file ∧ isFirst ∧ isDrive [':', '|'] name then String.ofList (name.take 1 ++ [':'])
  else String.ofList (Percent.encode isReservedInPath name)

/-- The names, the last one first, without the last one. -/
def shortened (kind : SchemeKind) : List String → List String
  | [] => []
  | [drive] => if kind = .file ∧ isDrive [':'] drive.toList then [drive] else []
  | _ :: names => names

/-- The names of a path behind those that have been taken, the last of these first. -/
def segmentsBehind (kind : SchemeKind) : (taken : List String) → List (List Char) → List String
  | taken, [] => taken.reverse
  | taken, name :: rest =>
    let lowered := String.ofList (name.map Char.toLower)
    let final := if rest = [] then [""] else []
    if twoDots.contains lowered then segmentsBehind kind (final ++ shortened kind taken) rest
    else if oneDot.contains lowered then segmentsBehind kind (final ++ taken) rest
    else segmentsBehind kind (segment kind taken.isEmpty name :: taken) rest

/-- The names of a path; a slash at the front begins the first one. In a special URL there is at least
one, and a file's path does not begin with empty ones. -/
def segments (kind : SchemeKind) (cs : List Char) : List String :=
  if kind = .other ∧ cs = [] then []
  else
    let slashed := cs.map fun c => if kind.isSlash c then '/' else c
    let names := splitAt '/' (if slashed.head? = some '/' then slashed.tail else slashed)
    let all := segmentsBehind kind [] names
    if kind = .file then
      match all.dropWhile (· = "") with
      | [] => [""]
      | names => names
    else all

end IngressControl.Url
