import IngressControl.Snapshot

/-!
# Changes between configurations

A change can be applied to the running proxy without a reload when it leaves the listening ports,
the certificates in use and the services below HTTP as they are. Endpoints, weights, hostnames and
route tables may change freely. What a configuration drops is listed once by name, sorted.
-/

namespace IngressControl

/-- Puts an item into a sorted list, unless it is there. -/
def insertSorted [Ord α] (a : α) : List α → List α
  | [] => [a]
  | b :: bs =>
    match compare a b with
    | .lt => a :: b :: bs
    | .eq => b :: bs
    | .gt => b :: insertSorted a bs

/-- The items of a list in ascending order, each once. -/
def sortedSet [Ord α] (items : List α) : List α := items.foldr insertSorted []

namespace Configuration

/-- The ports that sockets are opened for, in ascending order. -/
def listenerPorts (c : Configuration) : List UInt16 :=
  sortedSet (c.servers.map (·.port) ++ c.tcpServices.map (·.port) ++ c.udpServices.map (·.port))

/-- The certificates of the servers, in order. -/
def certificates (c : Configuration) : List Certificate := c.servers.filterMap (·.tls)

/-- The content identities of the servers' certificates, in ascending order. -/
def certificateIdentities (c : Configuration) : List String :=
  sortedSet (c.certificates.map (·.identity))

/-- Whether a proxy that runs `old` takes `new` without a reload. -/
def isDynamicallyReachable (old new : Configuration) : Bool :=
  old.listenerPorts = new.listenerPorts && old.certificateIdentities = new.certificateIdentities &&
    old.tcpServices = new.tcpServices && old.udpServices = new.udpServices

end Configuration

/-- What one configuration has and the next one has not. -/
structure Removed where
  backends : List String := []
  hosts : List String := []
  /-- The tracking ids of certificates. -/
  certificates : List String := []
deriving DecidableEq

namespace Removed

/-- The items that are not kept, sorted, each once. -/
def names (items kept : List String) : List String :=
  sortedSet (items.filter fun item => !kept.contains item)

/-- What is dropped on the way from `old` to `new`. -/
def between (old new : Configuration) : Removed where
  backends := names (old.backends.map (·.name)) (new.backends.map (·.name))
  hosts := names (old.servers.map (·.hostname)) (new.servers.map (·.hostname))
  certificates :=
    names (old.certificates.map (·.trackingId)) (new.certificates.map (·.trackingId))

/-- Whether nothing is dropped. -/
def isEmpty (r : Removed) : Bool := r.backends.isEmpty && r.hosts.isEmpty && r.certificates.isEmpty

end Removed

end IngressControl
