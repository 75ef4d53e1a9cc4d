import IngressControl.Url.Host

/-!
# URLs

The parts of a URL, each in the encoded form in which it is written. Some schemes are *special*:
their URLs always have a host, and a backslash counts as a slash in them.

A URL may name a user and a password in front of its host. They identify the sender of a request, and
are no part of what is requested.
-/

namespace IngressControl

/-- How the rules of reading depend on the scheme. -/
inductive SchemeKind where
  | file
  /-- A special scheme other than `file`. -/
  | web
  | other
deriving DecidableEq

namespace SchemeKind

/-- The kind of a scheme. -/
def ofName (scheme : String) : SchemeKind :=
  if scheme = "file" then .file
  else if ["http", "https", "ws", "wss", "ftp"].contains scheme then .web
  else .other

/-- Whether a character separates the names of a path. -/
def isSlash (kind : SchemeKind) (c : Char) : Bool := c = '/' || (kind ≠ .other && c = '\\')

/-- Whether a character ends the part of a URL that names the host. -/
def endsAuthority (kind : SchemeKind) (c : Char) : Bool := kind.isSlash c || c = '?' || c = '#'

end SchemeKind

/-- What stands behind the host. -/
inductive UrlPath where
  /-- A text that is no list of names; URLs without a slash behind their scheme have one. -/
  | plain (text : String)
  /-- Names with a slash in front of each. -/
  | names (segments : List String)
deriving DecidableEq

/-- The text of a path. -/
def UrlPath.text : UrlPath → String
  | .plain s => s
  | .names segments => String.join (segments.map ("/" ++ ·))

/-- A URL. -/
structure Url where
  scheme : String
  username : String := ""
  password : Option String := none
  host : Option Host := none
  /-- The port, unless it is the one that the scheme has by itself. -/
  port : Option UInt16 := none
  path : UrlPath
  query : Option String := none
  fragment : Option String := none
deriving DecidableEq

namespace Url

/-- The port of a scheme whose URLs name none. -/
def defaultPort? : String → Option UInt16
  | "http" => some 80
  | "ws" => some 80
  | "https" => some 443
  | "wss" => some 443
  | "ftp" => some 21
  | _ => none

/-- The text of a username and a password in front of a host. -/
def credentialsText (u : Url) : String :=
  match u.password with
  | none => if u.username = "" then "" else u.username ++ "@"
  | some password => u.username ++ ":" ++ password ++ "@"

/-- The text of the part that names the host. -/
def authorityText (u : Url) : String :=
  match u.host with
  | none => ""
  | some host =>
    let port := (u.port.map fun p => ":" ++ String.ofList (Decimal.ofNat p.toNat)).getD ""
    "//" ++ u.credentialsText ++ host.text ++ port

/-- The text of a URL. Where no host is named, a path must not look like one. -/
def text (u : Url) : String :=
  let guard :=
    match u.host, u.path with
    | none, .names ("" :: _ :: _) => "/."
    | _, _ => ""
  u.scheme ++ ":" ++ u.authorityText ++ guard ++ u.path.text ++
    (u.query.map ("?" ++ ·)).getD "" ++ (u.fragment.map ("#" ++ ·)).getD ""

/-- A user and a password. -/
structure Credentials where
  username : String
  password : Option String
deriving DecidableEq

/-- The text that an encoded part of a URL stands for, if its bytes are UTF-8. -/
def decoded? (s : String) : Option String := Utf8.decode? (Percent.decode s.toList)

/-- The credentials that a URL names. There are none without a readable username, and a password that
is not readable does not count. -/
def credentials? (u : Url) : Option Credentials :=
  match decoded? u.username with
  | none => none
  | some username =>
    let password := u.password.bind decoded?
    if username = "" ∧ password = none then none else some { username, password }

/-- The URL that a request goes to: without its credentials, if it names some. -/
def target (u : Url) : Url :=
  if u.credentials?.isSome then { u with username := "", password := none } else u

end Url

end IngressControl
