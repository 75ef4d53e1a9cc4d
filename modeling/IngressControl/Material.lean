import IngressControl.Sha256
import IngressControl.Text.Hex

/-!
# TLS material

Certificates and Diffie-Hellman parameters as snapshots carry them. What material *is* is its
content: two pieces are the same when their content identities are.
-/

namespace IngressControl

/-- The content identity of bytes: the hexadecimal digits of their SHA-256 hash. -/
def contentIdentity (bytes : Bytes) : String := Hex.ofBytes (Sha256.digest bytes)

/-- A certificate chain with its private key. -/
structure Certificate where
  /-- Names the file that holds the certificate. -/
  name : String := ""
  /-- The chain and the key, as PEM blocks. -/
  pem : String
  serialNumber : Option String := none
  /-- When the certificate expires, in seconds since 1970. -/
  expiresAt : Option Int64 := none
deriving DecidableEq

/-- Diffie-Hellman parameters. -/
structure DhParam where
  /-- Names the file that holds the parameters. -/
  name : String
  content : String
deriving DecidableEq

/-- The content identity of a certificate. -/
def Certificate.identity (c : Certificate) : String := contentIdentity (Utf8.encode c.pem)

/-- What a certificate is tracked by across snapshots: its serial number, unless that is absent or
empty, and else its content identity. -/
def Certificate.trackingId (c : Certificate) : String :=
  match c.serialNumber with
  | some serial => if serial = "" then c.identity else serial
  | none => c.identity

/-- The content identity of Diffie-Hellman parameters. -/
def DhParam.identity (d : DhParam) : String := contentIdentity (Utf8.encode d.content)

end IngressControl
