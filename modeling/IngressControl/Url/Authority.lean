import IngressControl.Url

/-!
# The part of a URL that names the host

A username and a password may stand in front of the host, up to the last `@`, and a port behind it. The
part ends at a slash, a question mark or a number sign.
-/

namespace IngressControl.Url

/-- What a URL says about its host. -/
structure Authority where
  username : String := ""
  password : Option String := none
  host : Host
  port : Option UInt16 := none

/-- Whether a character has to be encoded in a username or a password. -/
def isReservedInCredentials (c : Char) : Bool :=
  [' ', '"', '<', '>', '`', '#', '?', '{', '}', '/', ':', ';', '=', '@', '[', '\\', ']', '^',
    '|'].contains c

/-- Cuts a text at the last `@`. -/
def cutAtLast (cs : List Char) : Option (List Char × List Char) :=
  let behind := cs.reverse.takeWhile (· ≠ '@')
  if behind.length = cs.length then none
  else some (cs.take (cs.length - behind.length - 1), behind.reverse)

/-- The username and the password of a text, with a colon between them. An empty password counts as
none. -/
def credentials (cs : List Char) : String × Option String :=
  let encoded (cs : List Char) : String :=
    String.ofList (Percent.encode isReservedInCredentials cs)
  (encoded (cs.takeWhile (· ≠ ':')),
    match cs.dropWhile (· ≠ ':') with
    | [] => none
    | [_] => none
    | _ :: password => some (encoded password))

/-- Cuts a text at the first colon that is in no brackets. -/
def cutAtPort : (inBrackets : Bool) → List Char → List Char × List Char
  | _, [] => ([], [])
  | inBrackets, c :: cs =>
    if c = ':' ∧ !inBrackets then ([], c :: cs)
    else
      let inBrackets := c = '[' || (inBrackets && c ≠ ']')
      let (host, rest) := cutAtPort inBrackets cs
      (c :: host, rest)

/-- The number of a port, unless it is the given one; without digits there is none. -/
def portNumber (default : Option UInt16) (digits : List Char) : Except UrlError (Option UInt16) :=
  if digits = [] then .ok none
  else
    match Decimal.toNat? digits with
    | none => .error .invalidPort
    | some n =>
      if UInt16.size ≤ n then .error .invalidPort
      else if default = some (.ofNat n) then .ok none
      else .ok (some (.ofNat n))

/-- The host and the port of a text, and the text behind the port, which ends at a backslash. -/
def hostAndPort (scheme : String) (cs : List Char) :
    Except UrlError (Host × Option UInt16 × List Char) := do
  let (name, rest) := cutAtPort false cs
  let host ←
    if SchemeKind.ofName scheme = .other then Host.parsePlain name
    else if name = [] then .error .emptyHost
    else Host.parse name
  match rest with
  | [] => return (host, none, [])
  | _ :: rest =>
    if host = .named "" then .error .emptyHost
    else
      let port ← portNumber (defaultPort? scheme) (rest.takeWhile (· ≠ '\\'))
      return (host, port, rest.dropWhile (· ≠ '\\'))

/-- Takes the authority off the front of a text. Behind an `@` without a username a host has to stand,
unless the text ends there. -/
def authority (scheme : String) (cs : List Char) : Except UrlError (Authority × List Char) := do
  let kind := SchemeKind.ofName scheme
  let named := cs.takeWhile fun c => !kind.endsAuthority c
  let rest := cs.dropWhile fun c => !kind.endsAuthority c
  let (front, named) := (cutAtLast named).getD ([], named)
  if cs.head? = some '@' ∧ front = [] ∧ named = [] ∧ rest ≠ [] then .error .emptyHost
  else
    let (host, port, behindPort) ← hostAndPort scheme named
    let (username, password) := credentials front
    if host = .named "" ∧ (username ≠ "" ∨ password ≠ none) then .error .emptyHost
    else return ({ username, password, host, port }, behindPort ++ rest)

end IngressControl.Url
