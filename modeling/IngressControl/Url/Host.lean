import IngressControl.Net.SocketAddress
import IngressControl.Url.Domain

/-!
# Hosts of URLs

In the schemes of the web a host is a domain name or an IP address. A domain name whose last label is
a number has to be an address of the fourth version, written with one to four numbers in base eight,
ten or sixteen, the last of which fills up all octets that are left. In other schemes a host is a
plain text. An address of the sixth version stands in brackets everywhere.

Most of what can be wrong with a URL is wrong with its host.
-/

namespace IngressControl

/-- Why a text is no URL. -/
inductive UrlError where
  /-- The text has no scheme. -/
  | noScheme
  | emptyHost
  | invalidPort
  /-- The host is no domain name, in ASCII or in other letters. -/
  | invalidDomainName
  | invalidIpv4Address
  | invalidIpv6Address
  /-- The host of a scheme without rules for hosts has a character that no host may have. -/
  | invalidHostCharacter
deriving DecidableEq

/-- The text of a failure. -/
def UrlError.message : UrlError → String
  | .noScheme => "relative URL without a base"
  | .emptyHost => "empty host"
  | .invalidPort => "invalid port number"
  | .invalidDomainName => "invalid international domain name"
  | .invalidIpv4Address => "invalid IPv4 address"
  | .invalidIpv6Address => "invalid IPv6 address"
  | .invalidHostCharacter => "invalid domain character"

/-- A host. -/
inductive Host where
  /-- A domain name in its ASCII form, or a plain text, which may be empty. -/
  | named (text : String)
  | address (ip : IpAddress)
deriving DecidableEq

namespace Host

/-- The text of a host. -/
def text : Host → String
  | .named s => s
  | .address (.v4 octets) => (IpAddress.v4 octets).text
  | .address (.v6 groups) => "[" ++ (IpAddress.v6 groups).text ++ "]"

/-! ## Addresses of the fourth version -/

/-- The value of a run of digits in some base. -/
def valueIn? (base : Nat) (digits : List Char) : Option Nat :=
  digits.foldlM (fun n c => (Hex.value? c).bind fun d => if d < base then some (base * n + d) else none) 0

/-- The value of a number: behind `0x` it is hexadecimal, behind another leading zero octal. -/
def number? : List Char → Option Nat
  | [] => none
  | '0' :: c :: rest => if c = 'x' ∨ c = 'X' then valueIn? 16 rest else valueIn? 8 (c :: rest)
  | cs => valueIn? 10 cs

/-- The labels of a domain name, without the empty one behind a final point. -/
def labels (cs : List Char) : List (List Char) :=
  let pieces := splitAt '.' cs
  if pieces.getLast? = some [] then pieces.dropLast else pieces

/-- Whether the last label is a number. -/
def endsInNumber (cs : List Char) : Bool :=
  match (labels cs).getLast? with
  | none => false
  | some last => (last ≠ [] && last.all Char.isDigit) || (number? last).isSome

/-- The lowest `count` octets of a number, the highest of them first. -/
def octetsOf : (count n : Nat) → List UInt8
  | 0, _ => []
  | count + 1, n => .ofNat (n >>> (8 * count)) :: octetsOf count n

/-- The octets of an address, from its numbers. -/
def octets? : List Nat → Option (List UInt8)
  | [] => none
  | [last] => if last < 0x100000000 then some (octetsOf 4 last) else none
  | [a, last] =>
    if a < 256 ∧ last < 0x1000000 then some (.ofNat a :: octetsOf 3 last) else none
  | [a, b, last] =>
    if a < 256 ∧ b < 256 ∧ last < 0x10000 then some (.ofNat a :: .ofNat b :: octetsOf 2 last) else none
  | [a, b, c, d] =>
    if a < 256 ∧ b < 256 ∧ c < 256 ∧ d < 256 then some ([a, b, c, d].map UInt8.ofNat) else none
  | _ => none

/-- The address of the fourth version that a text stands for. -/
def ipv4? (cs : List Char) : Option IpAddress :=
  (((labels cs).mapM number?).bind octets?).map .v4

/-! ## Addresses of the sixth version -/

/-- The octets of an address of the fourth version at the end of one of the sixth: four numbers
without leading zeros. -/
def finalOctets? (cs : List Char) : Option (List UInt16) :=
  match SocketAddress.octetGroups cs with
  | some (gs, []) => some gs
  | _ => none

/-- Reads groups up to the end of a text. `front` holds those in front of two colons, if there were
any, and `taken` those behind, the last one first; two colons stand for a zero group or more. -/
def ipv6Groups? : (bound : List Char) → (front : Option (List UInt16)) → (taken : List UInt16) →
    List Char → Option (List UInt16)
  | _, none, taken, [] => if taken.length = 8 then some taken.reverse else none
  | _, some front, taken, [] =>
    some (front ++ List.replicate (8 - front.length - taken.length) 0 ++ taken.reverse)
  | [], _, _, _ :: _ => none
  | _ :: bound, front, taken, c :: cs =>
    let count := taken.length + (front.map (·.length + 1)).getD 0
    if 8 ≤ count then none
    else if c = ':' then
      if front.isSome then none else ipv6Groups? bound (some taken.reverse) [] cs
    else
      let digits := ((c :: cs).take 4).takeWhile fun c => (Hex.value? c).isSome
      let g := UInt16.ofNat (digits.foldl (fun n c => 16 * n + (Hex.value? c).getD 0) 0)
      match (c :: cs).drop digits.length with
      | [] => ipv6Groups? bound front (g :: taken) []
      | '.' :: _ =>
        if digits = [] ∨ 6 < count then none
        else
          match finalOctets? (c :: cs) with
          | none => none
          | some gs => ipv6Groups? bound front (gs.reverse ++ taken) []
      | ':' :: rest => if rest = [] then none else ipv6Groups? bound front (g :: taken) rest
      | _ => none

/-- The address of the sixth version that a text stands for. -/
def ipv6? (cs : List Char) : Option IpAddress :=
  let groups :=
    match cs with
    | ':' :: ':' :: rest => ipv6Groups? cs (some []) [] rest
    | ':' :: _ => none
    | _ => ipv6Groups? cs none [] cs
  groups.map .v6

/-! ## Hosts -/

/-- Whether a character may not stand in a plain host. -/
def isBarred (c : Char) : Bool :=
  ['\x00', '\t', '\n', '\r', ' ', '#', '/', ':', '<', '>', '?', '@', '[', '\\', ']', '^', '|'].contains c

/-- The address in a text that begins with a bracket. -/
def bracketed (cs : List Char) : Except UrlError Host :=
  match cs.getLast?, ipv6? cs.dropLast with
  | some ']', some ip => .ok (.address ip)
  | _, _ => .error .invalidIpv6Address

/-- The host of a scheme without rules for hosts. -/
def parsePlain : List Char → Except UrlError Host
  | '[' :: cs => bracketed cs
  | cs =>
    if cs.any isBarred then .error .invalidHostCharacter
    else .ok (.named (String.ofList (Percent.encode (fun _ => false) cs)))

/-- The host of a scheme of the web. -/
def parse : List Char → Except UrlError Host
  | '[' :: cs => bracketed cs
  | cs =>
    match (Utf8.decode? (Percent.decode cs)).bind fun s => Domain.toAscii? s.toList with
    | none => .error .invalidDomainName
    | some [] => .error .emptyHost
    | some domain =>
      if endsInNumber domain then
        match ipv4? domain with
        | some ip => .ok (.address ip)
        | none => .error .invalidIpv4Address
      else .ok (.named (String.ofList domain))

end Host

end IngressControl
