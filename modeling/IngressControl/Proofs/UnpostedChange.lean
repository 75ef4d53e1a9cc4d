import IngressControl.Proofs.ArtifactText
import IngressControl.Proofs.ControlSurface
import IngressControl.Proofs.ServersPayload

/-!
# Changes that nobody is told of

A change without a reload leaves the artifact as it is, so the control surface has to be told of all
that the proxy does differently. Where nothing is to be posted, the artifact of the new snapshot
should therefore be that of the old one.

It need not be. Backends are posted as a whole, but of the servers only the certificates are: which
hostname is served which certificate. Hostnames without a certificate, the ports of servers and all
route tables are in the artifact alone, and the check for a reload looks at none of them but for the
set of ports.

`unposted_body_iff` says what such a change keeps: all of the artifact around the servers, the set of
hostnames that have a certificate, and the servers themselves just when each of them shows what the
one in its place did.
-/

namespace IngressControl

namespace Artifact

/-! ## The parts of an artifact -/

/-- The lines in front of the servers. -/
def linesInFront (c : RenderContext) : List String :=
  balancerLines ++ materialLines c ++ fixedServerLines c.listen

/-- The lines behind the servers. -/
def linesBehind (s : Snapshot) : List String := ["\x7d"] ++ streamLines s.tcpServices s.udpServices

/-- The text of the servers. -/
def serversText (s : Snapshot) : String := ofLines (s.servers.flatMap serverLines)

theorem body_parts {s : Snapshot} {c : RenderContext} {artifact : String}
    (h : render s c = .ok artifact) : body artifact =
      (ofLines (linesInFront c)).toList ++
        ((serversText s).toList ++ (ofLines (linesBehind s)).toList) := by
  rw [body_of_render h, serversText, ← toList_ofLines_append, ← toList_ofLines_append]
  simp [bodyLines, linesInFront, linesBehind]

/-- The text of servers tells what is shown of them, as long as no name holds a line feed. -/
theorem serversText_eq_iff {old new : Snapshot} (oneLine : ∀ s ∈ old.servers ++ new.servers, s.OneLine) :
    serversText old = serversText new ↔
      old.servers.map Server.view = new.servers.map Server.view := by
  have lines : ∀ servers : List Server, (∀ s ∈ servers, s.OneLine) →
      ∀ line ∈ servers.flatMap serverLines, '\n' ∉ line.toList := by
    intro servers named line hline
    obtain ⟨s, hs, hsl⟩ := List.mem_flatMap.mp hline
    exact serverLines_oneLine (named s hs) line hsl
  constructor
  · intro same
    exact views_of_serverLines (ofLines_injective
      (lines _ fun s hs => oneLine s (List.mem_append_left _ hs))
      (lines _ fun s hs => oneLine s (List.mem_append_right _ hs)) same)
  · intro views
    rw [serversText, serversText, serverLines_of_views views]

variable {old new : Snapshot} {c : RenderContext} {f g : Fingerprint} {a b : String}

/-- Two artifacts with a change between them that needs no reload have the same text around their
servers. -/
theorem body_around (first : render old { c with fingerprint := f } = .ok a)
    (second : render new { c with fingerprint := g } = .ok b)
    (reachable : Configuration.isDynamicallyReachable old.structural new.structural = true) :
    ∃ front behind, body a = front ++ ((serversText old).toList ++ behind) ∧
      body b = front ++ ((serversText new).toList ++ behind) := by
  have partsOld := body_parts first
  have partsNew := body_parts second
  -- the services below HTTP are compared by the check for a reload
  have behind : linesBehind new = linesBehind old := by
    obtain ⟨_, _, tcp, udp⟩ := Configuration.isDynamicallyReachable_iff.mp reachable
    rw [linesBehind, linesBehind, show old.tcpServices = new.tcpServices from tcp,
      show old.udpServices = new.udpServices from udp]
  rw [behind] at partsNew
  -- fingerprints are in the header only
  have front : linesInFront { c with fingerprint := g } = linesInFront { c with fingerprint := f } :=
    rfl
  rw [front] at partsNew
  exact ⟨_, _, partsOld, partsNew⟩

/-- **A change of endpoints, weights and certificates leaves the artifact as it is**, when it needs no
reload. -/
theorem body_of_views (first : render old { c with fingerprint := f } = .ok a)
    (second : render new { c with fingerprint := g } = .ok b)
    (reachable : Configuration.isDynamicallyReachable old.structural new.structural = true)
    (views : old.servers.map Server.view = new.servers.map Server.view) : body a = body b := by
  obtain ⟨front, behind, partsOld, partsNew⟩ := body_around first second reachable
  rw [partsOld, partsNew, serversText, serversText, serverLines_of_views views]

/-- **What a change keeps that needs neither a reload nor a post.** Both artifacts have the same text
around their servers, and the same hostnames have a certificate. So behind the header the artifacts
agree just when the servers have the same text, that is, when each of them has the hostname, the port
and the route table of the one in its place and has a certificate just when that one has. -/
theorem unposted_body_iff (first : render old { c with fingerprint := f } = .ok a)
    (second : render new { c with fingerprint := g } = .ok b)
    (reachable : Configuration.isDynamicallyReachable old.structural new.structural = true)
    (unposted : ∀ n : SurfacePart, n.wanted old.structural = n.wanted new.structural) :
    (∃ front behind, body a = front ++ ((serversText old).toList ++ behind) ∧
        body b = front ++ ((serversText new).toList ++ behind)) ∧
      (∀ host, (∃ s ∈ old.servers, s.hostname = host ∧ s.tls.isSome = true) ↔
        ∃ s ∈ new.servers, s.hostname = host ∧ s.tls.isSome = true) ∧
      ((∀ s ∈ old.servers ++ new.servers, s.OneLine) →
        (body a = body b ↔ old.servers.map Server.view = new.servers.map Server.view)) := by
  obtain ⟨front, behind, partsOld, partsNew⟩ := body_around first second reachable
  refine ⟨⟨_, _, partsOld, partsNew⟩, fun host => ?_, fun oneLine => ?_⟩
  · -- the payload has a key for each host with a certificate
    have payload : ServersPayload.of old.structural = ServersPayload.of new.structural :=
      SectionBody.servers.inj (unposted .servers)
    have named : host ∈ (ServersPayload.of old.structural).servers.map Prod.fst ↔
        ∃ s ∈ old.servers, s.hostname = host ∧ s.tls.isSome = true := ServersPayload.mem_hosts_of
    rw [payload, ServersPayload.mem_hosts_of] at named
    exact named.symm
  · rw [partsOld, partsNew, List.append_cancel_left_eq, List.append_cancel_right_eq,
      String.toList_inj, serversText_eq_iff oneLine]

/-- A server that sends all requests to one of two backends. -/
def routedTo (generation : Int64) (backend : String) : Snapshot where
  generation := generation
  backends := [{ name := "api" }, { name := "web" }]
  servers := [{ hostname := "a.example", port := 80, locations := [{ path := "/", backend }] }]

theorem rerouted_reachable : Configuration.isDynamicallyReachable (routedTo 1 "web").structural
    (routedTo 2 "api").structural = true := by
  decide

theorem rerouted_unposted (n : SurfacePart) :
    n.wanted (routedTo 1 "web").structural = n.wanted (routedTo 2 "api").structural := by
  cases n <;> rfl

/-- What an artifact refers to when nothing but the snapshot is of interest. -/
def plainContext : RenderContext where
  fingerprint := ⟨0⟩

/-- A server that is sent to the other backend needs no reload and no post, and the law says that
its artifact does not stay. -/
theorem rerouted_body_iff :
    (∀ n : SurfacePart, n.wanted (routedTo 1 "web").structural =
        n.wanted (routedTo 2 "api").structural) ∧
      ∃ a b, render (routedTo 1 "web") plainContext = .ok a ∧
        render (routedTo 2 "api") plainContext = .ok b ∧
        (body a = body b ↔
          (routedTo 1 "web").servers.map Server.view = (routedTo 2 "api").servers.map Server.view) := by
  refine ⟨rerouted_unposted, _, _, rfl, rfl, ?_⟩
  exact (unposted_body_iff (c := plainContext) (f := ⟨0⟩) (g := ⟨0⟩) rfl rfl rerouted_reachable
    rerouted_unposted).2.2 (by decide)

/-- **A new route table can be lost.** Nothing is posted of it, and nothing calls for a reload. -/
theorem routes_not_posted : ¬∀ (old new : Snapshot) (c : RenderContext) (a b : String),
    render old c = .ok a → render new c = .ok b →
    old.sourceChecksum = new.sourceChecksum → old.defaultCertificate = new.defaultCertificate →
    old.dhParam = new.dhParam →
    Configuration.isDynamicallyReachable old.structural new.structural = true →
    (∀ n : SurfacePart, n.wanted old.structural = n.wanted new.structural) → body a = body b := by
  intro law
  have kept := law (routedTo 1 "web") (routedTo 2 "api") plainContext _ _ rfl rfl rfl rfl rfl
    rerouted_reachable rerouted_unposted
  rw [body_parts (s := routedTo 1 "web") (c := plainContext) rfl,
    body_parts (s := routedTo 2 "api") (c := plainContext) rfl, List.append_cancel_left_eq] at kept
  have texts := List.append_cancel_right kept
  rw [String.toList_inj, serversText_eq_iff (by decide)] at texts
  exact absurd texts (by decide)

end Artifact

end IngressControl
