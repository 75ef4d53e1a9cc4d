import IngressControl.Url.Authority
import IngressControl.Url.Segments

/-!
# Reading URLs

A URL begins with a scheme. Control characters and spaces around it do not count, and neither do tabs
and line ends in it. Special URLs name a host, with any number of slashes in front of it; others name
one behind two slashes; a file's host may be missing.
-/

namespace IngressControl.Url

/-- The characters of a text that count. -/
def significant (s : String) : List Char :=
  let trimmed := ((s.toList.dropWhile (· ≤ ' ')).reverse.dropWhile (· ≤ ' ')).reverse
  trimmed.filter fun c => c ≠ '\t' ∧ c ≠ '\n' ∧ c ≠ '\r'

/-- Whether a character may stand in a scheme behind its first letter. -/
def isSchemeCharacter (c : Char) : Bool := c.isAlphanum || ['+', '-', '.'].contains c

/-- Takes a scheme and the colon behind it off the front of a text. -/
def scheme? (cs : List Char) : Option (String × List Char) :=
  let name := cs.takeWhile isSchemeCharacter
  match name, cs.dropWhile isSchemeCharacter with
  | letter :: _, ':' :: rest =>
    if letter.isAlpha then some (String.ofList (name.map Char.toLower), rest) else none
  | _, _ => none

/-- Whether a character has to be encoded in a fragment. -/
def isReservedInFragment (c : Char) : Bool := [' ', '"', '<', '>', '`'].contains c

/-- Whether a character has to be encoded in a query. -/
def isReservedInQuery (kind : SchemeKind) (c : Char) : Bool :=
  [' ', '"', '#', '<', '>'].contains c || (kind ≠ .other && c = '\x27')

/-- Cuts a text in front of a query or a fragment. -/
def cutAtQuery (cs : List Char) : List Char × List Char :=
  cs.span fun c => c ≠ '?' && c ≠ '#'

/-- The URL with the query and the fragment of a text that begins with one of them. -/
def withTail (u : Url) (cs : List Char) : Url :=
  let encoded (reserved : Char → Bool) (cs : List Char) : Option String :=
    some (String.ofList (Percent.encode reserved cs))
  let withFragment (u : Url) : List Char → Url
    | [] => u
    | _ :: cs => { u with fragment := encoded isReservedInFragment cs }
  match cs with
  | '?' :: cs =>
    let reserved := isReservedInQuery (SchemeKind.ofName u.scheme)
    let u := { u with query := encoded reserved (cs.takeWhile (· ≠ '#')) }
    withFragment u (cs.dropWhile (· ≠ '#'))
  | cs => withFragment u cs

/-- The URL with a host, from the text behind its slashes. -/
def behindSlashes (scheme : String) (cs : List Char) : Except UrlError Url := do
  let (a, cs) ← authority scheme cs
  let (path, tail) := cutAtQuery cs
  let u : Url :=
    { scheme, username := a.username, password := a.password, host := some a.host, port := a.port
      path := .names (segments (SchemeKind.ofName scheme) path) }
  return u.withTail tail

/-- The host of a file, and the text behind it. A drive letter is no host, and `localhost` none that
counts. -/
def fileHost (cs : List Char) : Except UrlError (Host × List Char) := do
  let name := cs.takeWhile fun c => !SchemeKind.file.endsAuthority c
  if name = [] ∨ isDrive [':', '|'] name then return (.named "", cs)
  else
    let host ← Host.parse name
    let rest := cs.dropWhile fun c => !SchemeKind.file.endsAuthority c
    return (if host = .named "localhost" then .named "" else host, rest)

/-- The URL of a file, from the text behind its scheme. -/
def file (cs : List Char) : Except UrlError Url := do
  let (host, cs) ←
    if (cs.take 2).length = 2 ∧ (cs.take 2).all SchemeKind.file.isSlash then fileHost (cs.drop 2)
    else .ok (.named "", cs)
  let (path, tail) := cutAtQuery cs
  let names := segments .file path
  let host := if (names.head?.map String.toList).any (isDrive [':']) then .named "" else host
  let u : Url := { scheme := "file", host := some host, path := .names names }
  return u.withTail tail

/-- The URL of a scheme that is not special, from the text behind its scheme. -/
def general (scheme : String) (cs : List Char) : Except UrlError Url :=
  match cs with
  | '/' :: '/' :: cs => behindSlashes scheme cs
  | cs =>
    let (path, tail) := cutAtQuery cs
    let path :=
      if path.head? = some '/' then .names (segments .other path)
      else .plain (String.ofList (Percent.encode (fun _ => false) path))
    let u : Url := { scheme, path }
    .ok (u.withTail tail)

/-- The URL that a text stands for. -/
def parse (s : String) : Except UrlError Url :=
  match scheme? (significant s) with
  | none => .error .noScheme
  | some (scheme, cs) =>
    match SchemeKind.ofName scheme with
    | .file => file cs
    | .web => behindSlashes scheme (cs.dropWhile SchemeKind.web.isSlash)
    | .other => general scheme cs

/-- The URL of a path from the root of the same host. A plain path has no root, and a drive letter
belongs to it. -/
def atRoot? (u : Url) (names : List String) : Option Url :=
  match u.path with
  | .plain _ => none
  | .names segments =>
    let drive :=
      if u.scheme = "file" then (segments.take 1).filter fun s => isDrive [':'] s.toList else []
    some { u with path := .names (drive ++ names), query := none, fragment := none }

end IngressControl.Url
