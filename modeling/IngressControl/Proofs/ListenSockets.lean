import IngressControl.Artifact
import IngressControl.Proofs.Change

/-!
# Sockets across a change without a reload

A change is applied without a reload when `isDynamicallyReachable` says so. It should then need no
socket that the running proxy has not opened: the listen directives of the new artifact should be
those of the old one.

Of the ports that is true (`reachable_ports`). Of the directives it is not. The check compares the
set of ports and the set of certificates, but which port a certificate is served on is in neither of
them: a certificate that moves from a server on one port to a server on another one leaves both sets
as they are, and one socket has to speak TLS that did not before.

`listenDirectives_kept_iff` says how much is missing: the directives stay just when each port keeps
having, or keeps lacking, a server with a certificate, and likewise a listener without one.
-/

namespace IngressControl

/-- How a socket is opened. -/
inductive SocketKind where
  | plain
  | tls
  | udp
deriving DecidableEq

/-- A socket that the proxy listens on. -/
structure Socket where
  port : UInt16
  kind : SocketKind
deriving DecidableEq

namespace Socket

/-- The end of a directive, behind the port. -/
def marker : SocketKind → String
  | .plain => ";"
  | .tls => " ssl;"
  | .udp => " udp;"

/-- The directive that opens a socket. -/
def directive (s : Socket) : String := "        listen " ++ portText s.port ++ marker s.kind

/-- No marker begins with a digit, so the port of a directive can be told from what follows. -/
theorem directive_injective {a b : Socket} (h : a.directive = b.directive) : a = b := by
  have chars : Decimal.ofNat a.port.toNat ++ (marker a.kind).toList =
      Decimal.ofNat b.port.toNat ++ (marker b.kind).toList := by
    have parts : ∀ opening port mark : String, (opening ++ port ++ mark).toList =
        opening.toList ++ (port.toList ++ mark.toList) := by
      intro opening port mark
      rw [String.toList_append, String.toList_append, List.append_assoc]
    have lists : ("        listen " ++ portText a.port ++ marker a.kind).toList =
        ("        listen " ++ portText b.port ++ marker b.kind).toList := congrArg String.toList h
    rw [parts, parts] at lists
    have tails := List.append_cancel_left lists
    rwa [portText, portText, String.toList_ofList, String.toList_ofList] at tails
  have digits : ∀ (s : Socket), (Decimal.ofNat s.port.toNat ++ (marker s.kind).toList).takeWhile
      Char.isDigit = Decimal.ofNat s.port.toNat := by
    intro s
    rw [List.takeWhile_append_of_pos fun c hc => Decimal.isDigit_of_mem_ofNat hc]
    cases s.kind <;> simp [marker]
  -- the digits in front are the port, and what is left is the marker
  have ports : Decimal.ofNat a.port.toNat = Decimal.ofNat b.port.toNat := by
    rw [← digits a, chars, digits b]
  have kinds : a.kind = b.kind := by
    rw [ports] at chars
    have markers := List.append_cancel_left chars
    cases ha : a.kind <;> cases hb : b.kind <;> simp_all [marker]
  obtain ⟨port, kind⟩ := a
  have values : port.toNat = b.port.toNat := by
    have numbers := congrArg Decimal.toNat ports
    simpa using numbers
  rw [UInt16.toNat_inj.mp values, show kind = b.kind from kinds]

end Socket

namespace Snapshot

/-- The sockets of a snapshot's servers and services, in their order. -/
def sockets (s : Snapshot) : List Socket :=
  s.servers.map (fun x => ⟨x.port, if x.tls.isSome then .tls else .plain⟩) ++
    s.tcpServices.map (fun x => ⟨x.port, .plain⟩) ++ s.udpServices.map (fun x => ⟨x.port, .udp⟩)

/-- Whether a line of an artifact is a listen directive. -/
def isListen (line : String) : Bool := "        listen ".toList.isPrefixOf line.toList

/-- The listen directives among the lines of a snapshot's servers and services. -/
def listenDirectives (s : Snapshot) : List String :=
  (s.servers.flatMap Artifact.serverLines ++ s.tcpServices.flatMap (Artifact.serviceLines false) ++
    s.udpServices.flatMap (Artifact.serviceLines true)).filter isListen

theorem isListen_directive (x : Socket) : isListen x.directive = true := by
  unfold Socket.directive
  simp [isListen, String.toList_append]

theorem locationLines_listen (l : Location) : (Artifact.locationLines l).filter isListen = [] := by
  simp [Artifact.locationLines, isListen, String.toList_append]

theorem listenLines_listen (s : Server) : (Artifact.listenLines s).filter isListen =
    [Socket.directive ⟨s.port, if s.tls.isSome then .tls else .plain⟩] := by
  unfold Artifact.listenLines
  cases s.tls.isSome with
  | true =>
    have lua : isListen "        ssl_certificate_by_lua_block \x7b certificate.call() \x7d" = false := by
      simp [isListen, List.isPrefixOf]
    change [Socket.directive ⟨s.port, .tls⟩, _].filter isListen = [Socket.directive ⟨s.port, .tls⟩]
    rw [List.filter_cons_of_pos (isListen_directive _), List.filter_cons_of_neg (by simp [lua])]
    rfl
  | false =>
    change [Socket.directive ⟨s.port, .plain⟩].filter isListen = [Socket.directive ⟨s.port, .plain⟩]
    rw [List.filter_cons_of_pos (isListen_directive _)]
    rfl

/-- The only directive of a server is in the lines that open its port. -/
theorem serverLines_listen (s : Server) : (Artifact.serverLines s).filter isListen =
    [Socket.directive ⟨s.port, if s.tls.isSome then .tls else .plain⟩] := by
  have locations : (s.locations.flatMap Artifact.locationLines).filter isListen = [] := by
    rw [List.filter_flatMap]
    simp [locationLines_listen]
  unfold Artifact.serverLines
  rw [List.filter_append, List.filter_append, List.filter_append, locations, listenLines_listen]
  simp [isListen, String.toList_append, List.isPrefixOf]

theorem serviceLines_listen (udp : Bool) (s : Service) :
    (Artifact.serviceLines udp s).filter isListen =
      [Socket.directive ⟨s.port, if udp then .udp else .plain⟩] := by
  have proxy : (if s.proxyProtocol then ["        proxy_protocol on;"] else []).filter isListen
      = [] := by
    split
    · simp [isListen]
    · rfl
  have rest : ["        set $proxy_upstream_name \"" ++ s.backend ++ "\";",
      "        proxy_pass upstream_balancer;", "    \x7d"].filter isListen = [] := by
    simp [isListen, String.toList_append]
  have opening : ["", "    server \x7b",
      "        listen " ++ portText s.port ++ (if udp then " udp;" else ";")].filter isListen =
        [Socket.directive ⟨s.port, if udp then .udp else .plain⟩] := by
    have silent : ["", "    server \x7b"].filter isListen = [] := by simp [isListen]
    cases udp with
    | true =>
      change (["", "    server \x7b"] ++ [Socket.directive ⟨s.port, .udp⟩]).filter isListen = _
      rw [List.filter_append, silent, List.filter_cons_of_pos (isListen_directive _)]
      rfl
    | false =>
      change (["", "    server \x7b"] ++ [Socket.directive ⟨s.port, .plain⟩]).filter isListen = _
      rw [List.filter_append, silent, List.filter_cons_of_pos (isListen_directive _)]
      rfl
  unfold Artifact.serviceLines
  rw [List.filter_append, List.filter_append, proxy, rest, opening]
  rfl

/-- Each server and each service has one directive, for its socket. -/
theorem listenDirectives_eq (s : Snapshot) :
    s.listenDirectives = s.sockets.map Socket.directive := by
  have each : ∀ {α : Type} (lines : α → List String) (socket : α → Socket),
      (∀ x, (lines x).filter isListen = [(socket x).directive]) → ∀ xs : List α,
      (xs.flatMap lines).filter isListen = (xs.map socket).map Socket.directive := by
    intro α lines socket one xs
    induction xs with
    | nil => rfl
    | cons x xs ih => rw [List.flatMap_cons, List.filter_append, one, ih]; rfl
  rw [listenDirectives, List.filter_append, List.filter_append, each _ _ serverLines_listen,
    each _ _ (serviceLines_listen false), each _ _ (serviceLines_listen true), sockets,
    List.map_append, List.map_append]
  rfl

theorem streamLines_listen (tcp udp : List Service) :
    (Artifact.streamLines tcp udp).filter isListen =
      (tcp.flatMap (Artifact.serviceLines false)).filter isListen ++
        (udp.flatMap (Artifact.serviceLines true)).filter isListen := by
  unfold Artifact.streamLines
  split
  · rename_i empty
    obtain ⟨rfl, rfl⟩ : tcp = [] ∧ udp = [] := by simpa using empty
    rfl
  · rw [List.filter_append, List.filter_append, List.filter_append]
    simp [isListen]

/-- The other listen directives of an artifact are decided by the settings alone. -/
theorem lines_listen (s : Snapshot) (c : RenderContext) :
    (Artifact.lines s c).filter isListen =
      (Artifact.fixedServerLines c.listen).filter isListen ++ s.listenDirectives := by
  have header : (Artifact.headerLines s c).filter isListen = [] := by
    simp [Artifact.headerLines, isListen, String.toList_append, List.isPrefixOf]
  have balancer : Artifact.balancerLines.filter isListen = [] := by
    simp [Artifact.balancerLines, isListen]
  have material : (Artifact.materialLines c).filter isListen = [] := by
    unfold Artifact.materialLines
    cases c.defaultCertificate <;> cases c.dhParam <;>
      simp [isListen, String.toList_append, List.isPrefixOf]
  have close : ["\x7d"].filter isListen = [] := by simp [isListen]
  unfold Artifact.lines Artifact.bodyLines
  rw [List.filter_append, List.filter_append, List.filter_append, List.filter_append,
    List.filter_append, List.filter_append, header, balancer, material, close, streamLines_listen,
    listenDirectives, List.filter_append, List.filter_append]
  simp [List.append_assoc]

/-! ## Kept and lost -/

/-- Whether a server with a certificate listens on a port. -/
def ServesTls (s : Snapshot) (port : UInt16) : Prop :=
  ∃ x ∈ s.servers, x.port = port ∧ x.tls.isSome = true

/-- Whether a server without a certificate or a TCP service listens on a port. -/
def ServesPlain (s : Snapshot) (port : UInt16) : Prop :=
  (∃ x ∈ s.servers, x.port = port ∧ x.tls.isSome = false) ∨ ∃ x ∈ s.tcpServices, x.port = port

/-- Whether a UDP service listens on a port. -/
def ServesUdp (s : Snapshot) (port : UInt16) : Prop := ∃ x ∈ s.udpServices, x.port = port

theorem mem_sockets {s : Snapshot} {port : UInt16} :
    ((⟨port, .tls⟩ : Socket) ∈ s.sockets ↔ s.ServesTls port) ∧
      ((⟨port, .plain⟩ : Socket) ∈ s.sockets ↔ s.ServesPlain port) ∧
      ((⟨port, .udp⟩ : Socket) ∈ s.sockets ↔ s.ServesUdp port) := by
  have kinds : ∀ (b : Bool) (k : SocketKind), (if b = true then SocketKind.tls else .plain) = k ↔
      (k = .tls ∧ b = true) ∨ (k = .plain ∧ b = false) := by
    intro b k
    cases b <;> cases k <;> simp
  refine ⟨?_, ?_, ?_⟩
  · simp [sockets, ServesTls, kinds]
  · simp [sockets, ServesPlain, kinds]
  · simp [sockets, ServesUdp, kinds]

/-- The ports of the sockets are those that a configuration listens on. -/
theorem sockets_port {s : Snapshot} {port : UInt16} :
    (∃ x ∈ s.sockets, x.port = port) ↔ port ∈ s.structural.listenerPorts := by
  have ports : s.sockets.map (·.port) = s.servers.map (·.port) ++ s.tcpServices.map (·.port) ++
      s.udpServices.map (·.port) := by
    simp [sockets, Function.comp_def]
  rw [Configuration.listenerPorts, mem_sortedSet, ← List.mem_map, ports]
  rfl

theorem mem_listenDirectives {s : Snapshot} {x : Socket} :
    x.directive ∈ s.listenDirectives ↔ x ∈ s.sockets := by
  rw [listenDirectives_eq, List.mem_map]
  constructor
  · rintro ⟨y, hy, same⟩
    rwa [← Socket.directive_injective same]
  · exact fun hx => ⟨x, hx, rfl⟩

/-- Two snapshots have the same directives when they have the same sockets. -/
theorem listenDirectives_congr {old new : Snapshot} :
    (∀ line, line ∈ old.listenDirectives ↔ line ∈ new.listenDirectives) ↔
      ∀ x, x ∈ old.sockets ↔ x ∈ new.sockets := by
  constructor
  · intro same x
    rw [← mem_listenDirectives, same, mem_listenDirectives]
  · intro same line
    rw [listenDirectives_eq, listenDirectives_eq, List.mem_map, List.mem_map]
    simp only [same]

/-- **What a change without a reload keeps of the sockets.** The ports stay, and so do the UDP
sockets. All directives stay just when no port gains or loses its last server with a certificate or
its last listener without one. -/
theorem listenDirectives_kept_iff {old new : Snapshot}
    (reachable : Configuration.isDynamicallyReachable old.structural new.structural = true) :
    (∀ port, (∃ x ∈ old.sockets, x.port = port) ↔ ∃ x ∈ new.sockets, x.port = port) ∧
      (∀ port, old.ServesUdp port ↔ new.ServesUdp port) ∧
      ((∀ line, line ∈ old.listenDirectives ↔ line ∈ new.listenDirectives) ↔
        ∀ port, (old.ServesTls port ↔ new.ServesTls port) ∧
          (old.ServesPlain port ↔ new.ServesPlain port)) := by
  obtain ⟨ports, _, tcp, udp⟩ := Configuration.isDynamicallyReachable_iff.mp reachable
  have udpSame : ∀ port, old.ServesUdp port ↔ new.ServesUdp port := by
    intro port
    rw [ServesUdp, ServesUdp, show old.udpServices = new.udpServices from udp]
  refine ⟨fun port => ?_, udpSame, ?_⟩
  · rw [sockets_port, sockets_port, ports]
  · rw [listenDirectives_congr]
    constructor
    · intro same port
      rw [← mem_sockets.1, ← mem_sockets.1, ← mem_sockets.2.1, ← mem_sockets.2.1]
      exact ⟨same _, same _⟩
    · rintro same ⟨port, kind⟩
      cases kind with
      | plain => rw [mem_sockets.2.1, mem_sockets.2.1]; exact (same port).2
      | tls => rw [mem_sockets.1, mem_sockets.1]; exact (same port).1
      | udp =>
        -- the services are compared as lists
        rw [mem_sockets.2.2, mem_sockets.2.2]
        exact udpSame port

/-- A server with a certificate on port 443 and one without on port 8443. -/
def securedFirst : Snapshot where
  generation := 1
  servers := [
    { hostname := "a.example", port := 443, tls := some { pem := "A" } },
    { hostname := "b.example", port := 8443 }]

/-- The same servers, the certificate moved to the other one. -/
def securedSecond : Snapshot where
  generation := 2
  servers := [
    { hostname := "a.example", port := 443 },
    { hostname := "b.example", port := 8443, tls := some { pem := "A" } }]

theorem securedMove_reachable :
    Configuration.isDynamicallyReachable securedFirst.structural securedSecond.structural = true := by
  have certificates : securedFirst.structural.certificates = securedSecond.structural.certificates :=
    rfl
  rw [Configuration.isDynamicallyReachable_iff]
  refine ⟨by decide, ?_, rfl, rfl⟩
  rw [Configuration.certificateIdentities, certificates, Configuration.certificateIdentities]

/-- The move is one that needs no reload, and the law says of it what is lost. -/
theorem securedMove_kept_iff :
    Configuration.isDynamicallyReachable securedFirst.structural securedSecond.structural = true ∧
      ((∀ line, line ∈ securedFirst.listenDirectives ↔ line ∈ securedSecond.listenDirectives) ↔
        ∀ port, (securedFirst.ServesTls port ↔ securedSecond.ServesTls port) ∧
          (securedFirst.ServesPlain port ↔ securedSecond.ServesPlain port)) :=
  ⟨securedMove_reachable, (listenDirectives_kept_iff securedMove_reachable).2.2⟩

/-- **A change without a reload can need a socket that is not there.** Both artifacts are rendered,
and port 8443 has to speak TLS in the second one only. -/
theorem listenDirectives_not_kept :
    ¬∀ old new : Snapshot, Artifact.incoherence? old = none → Artifact.incoherence? new = none →
      Configuration.isDynamicallyReachable old.structural new.structural = true →
      ∀ line, line ∈ old.listenDirectives ↔ line ∈ new.listenDirectives := by
  intro law
  have kept := law securedFirst securedSecond (by decide) (by decide) securedMove_reachable
    "        listen 8443 ssl;"
  have missing : "        listen 8443 ssl;" ∉ securedFirst.listenDirectives := by decide +kernel
  exact missing (kept.mpr (by decide +kernel))

end Snapshot

end IngressControl
