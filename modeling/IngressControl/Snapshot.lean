import IngressControl.Routing

/-!
# Snapshots and configurations

A snapshot is one desired state of the proxy. Its structural configuration is the part that
decides routing; bookkeeping and the material served by default stay outside of it.
-/

namespace IngressControl

/-- Everything that affects routing. -/
structure Configuration where
  backends : List Backend := []
  servers : List Server := []
  tcpServices : List Service := []
  udpServices : List Service := []
deriving DecidableEq

/-- One desired state of the proxy. -/
structure Snapshot where
  /-- Orders the snapshots handed in: only a greater one is news. -/
  generation : Int64 := 0
  /-- Identifies the settings that the snapshot was made from. -/
  sourceChecksum : String := ""
  backends : List Backend := []
  servers : List Server := []
  tcpServices : List Service := []
  udpServices : List Service := []
  /-- The certificate served when no server's certificate matches. -/
  defaultCertificate : Option Certificate := none
  dhParam : Option DhParam := none
deriving DecidableEq

/-- The configuration that routes nothing. -/
def Configuration.empty : Configuration := {}

/-- Whether a configuration routes nothing. -/
def Configuration.isEmpty (c : Configuration) : Bool :=
  c.backends.isEmpty && c.servers.isEmpty && c.tcpServices.isEmpty && c.udpServices.isEmpty

/-- The part of a snapshot that decides routing. -/
def Snapshot.structural (s : Snapshot) : Configuration where
  backends := s.backends
  servers := s.servers
  tcpServices := s.tcpServices
  udpServices := s.udpServices

/-- A configuration routes nothing just when it is the empty one. -/
theorem Configuration.isEmpty_iff (c : Configuration) : c.isEmpty = true ↔ c = .empty := by
  cases c
  simp [isEmpty, empty, and_assoc]

end IngressControl
