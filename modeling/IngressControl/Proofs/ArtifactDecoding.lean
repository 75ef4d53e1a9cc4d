import IngressControl.Proofs.Json.Shapes
import IngressControl.Proofs.UnpostedChange

/-!
# Reading an artifact back

An artifact shows the generation of its snapshot, the servers, and of each service below HTTP its port,
its backend and whether the proxy protocol is on. Names stand in it as they are, so all of this can be
told from the text just as long as the names do not take over: a name is *delimited* when it does not
hold what its own line ends with. It may hold line feeds, quotes, braces and semicolons otherwise.

The text is read from its front. What stands there is one of a few lines that differ in a character at a
fixed place, or a name up to its delimiter (`name_told`), and what is left is read on. A list of items
is read until the line that closes it (`items_told`).
-/

namespace IngressControl

/-- What an artifact shows of a service below HTTP. -/
structure ServiceView where
  port : UInt16
  proxyProtocol : Bool
  backend : String
deriving DecidableEq

/-- What an artifact shows of a service below HTTP. -/
def Service.view (s : Service) : ServiceView := ⟨s.port, s.proxyProtocol, s.backend⟩

/-- What an artifact shows of a snapshot. -/
structure SnapshotView where
  generation : Int64
  servers : List ServerView
  tcpServices : List ServiceView
  udpServices : List ServiceView
deriving DecidableEq

/-- What an artifact shows of a snapshot. -/
def Snapshot.view (s : Snapshot) : SnapshotView :=
  ⟨s.generation, s.servers.map Server.view, s.tcpServices.map Service.view,
    s.udpServices.map Service.view⟩

/-! ## Delimited names -/

/-- A name that does not hold the end of its own line: the delimiter and a line feed. -/
def Artifact.Delimited (delimiter name : String) : Prop :=
  ¬delimiter.toList ++ ['\n'] <:+: name.toList

instance (delimiter name : String) : Decidable (Artifact.Delimited delimiter name) :=
  inferInstanceAs (Decidable ¬_)

/-- A name without a line feed is delimited by whatever follows it. -/
theorem Artifact.delimited_of_oneLine {delimiter name : String} (h : '\n' ∉ name.toList) :
    Delimited delimiter name :=
  fun inside => h (inside.subset (by simp))

def Location.Delimited (l : Location) : Prop :=
  Artifact.Delimited " \x7b" l.path ∧ Artifact.Delimited "\";" l.backend

def Server.Delimited (s : Server) : Prop :=
  Artifact.Delimited ";" s.hostname ∧ ∀ l ∈ s.locations, l.Delimited

def Service.Delimited (s : Service) : Prop := Artifact.Delimited "\";" s.backend

/-- All names that an artifact shows of a snapshot are delimited. -/
def Snapshot.Delimited (s : Snapshot) : Prop :=
  (∀ x ∈ s.servers, x.Delimited) ∧ ∀ x ∈ s.tcpServices ++ s.udpServices, x.Delimited

instance (l : Location) : Decidable l.Delimited := inferInstanceAs (Decidable (_ ∧ _))

instance (s : Server) : Decidable s.Delimited := inferInstanceAs (Decidable (_ ∧ _))

instance (s : Service) : Decidable s.Delimited :=
  inferInstanceAs (Decidable (Artifact.Delimited _ _))

instance (s : Snapshot) : Decidable s.Delimited := inferInstanceAs (Decidable (_ ∧ _))

theorem Server.OneLine.delimited {s : Server} (h : s.OneLine) : s.Delimited :=
  ⟨Artifact.delimited_of_oneLine h.1, fun l hl =>
    ⟨Artifact.delimited_of_oneLine (h.2 l hl).1, Artifact.delimited_of_oneLine (h.2 l hl).2⟩⟩

/-- Names without a line feed are all delimited. -/
theorem Snapshot.delimited_of_oneLine {s : Snapshot} (servers : ∀ x ∈ s.servers, x.OneLine)
    (services : ∀ x ∈ s.tcpServices ++ s.udpServices, '\n' ∉ x.backend.toList) : s.Delimited :=
  ⟨fun x hx => (servers x hx).delimited, fun x hx => Artifact.delimited_of_oneLine (services x hx)⟩

namespace Artifact

/-! ## The front of a text -/

/-- The text of lines with more text behind it. -/
def linesThen (lines : List String) (rest : List Char) : List Char := (ofLines lines).toList ++ rest

@[simp] theorem linesThen_nil (rest : List Char) : linesThen [] rest = rest := by
  simp [linesThen, ofLines]

@[simp] theorem linesThen_cons (line : String) (lines : List String) (rest : List Char) :
    linesThen (line :: lines) rest = line.toList ++ '\n' :: linesThen lines rest := by
  rw [linesThen, toList_ofLines_cons, List.append_assoc, List.cons_append, linesThen]

@[simp] theorem linesThen_append (as bs : List String) (rest : List Char) :
    linesThen (as ++ bs) rest = linesThen as (linesThen bs rest) := by
  rw [linesThen, toList_ofLines_append, List.append_assoc, linesThen, linesThen]

@[simp] theorem linesThen_append_right (lines : List String) (rest more : List Char) :
    linesThen lines rest ++ more = linesThen lines (rest ++ more) :=
  List.append_assoc _ _ _

section

variable {rest rest' : List Char} {as bs : List String}

/-- Lines that are the same tell what is behind them. -/
theorem same_told (h : linesThen as rest = linesThen as rest') : rest = rest' :=
  List.append_cancel_left h

theorem front_told (lines : List String)
    (h : linesThen (lines ++ as) rest = linesThen (lines ++ bs) rest') :
    linesThen as rest = linesThen bs rest' := by
  rw [linesThen_append, linesThen_append] at h
  exact List.append_cancel_left h

/-- A delimited name is told by the text that begins with it and its delimiter. -/
theorem name_told {delimiter a b : List Char} (oneLine : '\n' ∉ delimiter)
    (ha : ¬delimiter ++ ['\n'] <:+: a) (hb : ¬delimiter ++ ['\n'] <:+: b)
    (h : a ++ (delimiter ++ '\n' :: rest) = b ++ (delimiter ++ '\n' :: rest')) :
    a = b ∧ rest = rest' := by
  -- what the longer name has more holds the delimiter of the shorter one, or is a part of it
  have none_more : ∀ {name more rest rest' : List Char}, ¬delimiter ++ ['\n'] <:+: name ++ more →
      delimiter ++ '\n' :: rest = more ++ (delimiter ++ '\n' :: rest') → more = [] := by
    intro name more rest rest' delimited same
    rcases List.append_eq_append_iff.mp same with ⟨behind, rfl, lines⟩ | ⟨part, delim, lines⟩
    · cases behind with
      | nil =>
        have empty := (line_told (List.not_mem_nil) oneLine lines).1
        rw [← empty, List.append_nil]
      | cons c behind =>
        rw [(List.cons.inj lines).1.symm] at delimited
        exact absurd ⟨name, behind, by simp⟩ delimited
    · have inside : '\n' ∉ part := fun feed => oneLine (delim ▸ List.mem_append_right more feed)
      have whole := (line_told oneLine inside lines).1
      rw [← whole] at delim
      exact List.self_eq_append_left.mp delim
  rcases List.append_eq_append_iff.mp h with ⟨more, rfl, same⟩ | ⟨more, rfl, same⟩
  · obtain rfl := none_more hb same
    simpa using same
  · obtain rfl := none_more ha same
    simpa using same.symm

/-- A line with a delimited name tells the name and the text behind it. -/
theorem named_told {opening delimiter a b : String} (oneLine : '\n' ∉ delimiter.toList)
    (ha : Delimited delimiter a) (hb : Delimited delimiter b)
    (h : linesThen ((opening ++ a ++ delimiter) :: as) rest =
      linesThen ((opening ++ b ++ delimiter) :: bs) rest') :
    a = b ∧ linesThen as rest = linesThen bs rest' := by
  simp only [linesThen_cons, String.toList_append, List.append_assoc] at h
  obtain ⟨names, behind⟩ := name_told oneLine ha hb (List.append_cancel_left h)
  exact ⟨String.toList_inj.mp names, behind⟩

/-- A line that opens a socket tells the socket and the text behind it. -/
theorem directive_told {x y : Socket}
    (h : linesThen (x.directive :: as) rest = linesThen (y.directive :: bs) rest') :
    x = y ∧ linesThen as rest = linesThen bs rest' := by
  have oneLine : ∀ s : Socket, '\n' ∉ s.directive.toList := by
    intro s
    have port := portText_oneLine s.port
    have marker : '\n' ∉ (Socket.marker s.kind).toList := by
      cases s.kind <;> decide
    have opening : '\n' ∉ "        listen ".toList := by simp
    change '\n' ∉ ("        listen " ++ portText s.port ++ Socket.marker s.kind).toList
    simp only [String.toList_append, List.mem_append, not_or]
    exact ⟨⟨opening, port⟩, marker⟩
  rw [linesThen_cons, linesThen_cons] at h
  obtain ⟨directives, behind⟩ := line_told (oneLine x) (oneLine y) h
  exact ⟨Socket.directive_injective (String.toList_inj.mp directives), behind⟩

end

/-- **The text of items tells the items**, up to the line that closes them, when the text of each item
tells the item and none begins with that line. -/
theorem items_told {α β : Type} {lines : α → List String} {view : α → β} {Good : α → Prop}
    {close : String}
    (told : ∀ {x y rest rest'}, Good x → Good y →
      linesThen (lines x) rest = linesThen (lines y) rest' → view x = view y ∧ rest = rest')
    (apart : ∀ x rest rest', linesThen (lines x) rest ≠ linesThen [close] rest') :
    ∀ {xs ys : List α} {rest rest' : List Char}, (∀ x ∈ xs, Good x) → (∀ y ∈ ys, Good y) →
      linesThen (xs.flatMap lines ++ [close]) rest = linesThen (ys.flatMap lines ++ [close]) rest' →
      xs.map view = ys.map view ∧ rest = rest' := by
  intro xs
  induction xs with
  | nil =>
    intro ys rest rest' _ _ h
    cases ys with
    | nil => exact ⟨rfl, same_told h⟩
    | cons y ys =>
      rw [List.flatMap_cons, List.append_assoc, linesThen_append (lines y)] at h
      exact absurd h.symm (apart y _ _)
  | cons x xs ih =>
    intro ys rest rest' hx hy h
    rw [List.flatMap_cons, List.append_assoc, linesThen_append (lines x)] at h
    cases ys with
    | nil => exact absurd h (apart x _ _)
    | cons y ys =>
      rw [List.flatMap_cons, List.append_assoc, linesThen_append (lines y)] at h
      obtain ⟨first, h⟩ := told (hx x (by simp)) (hy y (by simp)) h
      obtain ⟨others, same⟩ :=
        ih (fun x' h' => hx x' (by simp [h'])) (fun y' h' => hy y' (by simp [h'])) h
      rw [List.map_cons, List.map_cons, first, others]
      exact ⟨rfl, same⟩

/-! ## Servers -/

section

variable {rest rest' : List Char}

theorem location_text_told {x y : Location} (hx : x.Delimited) (hy : y.Delimited)
    (h : linesThen (locationLines x) rest = linesThen (locationLines y) rest') :
    x = y ∧ rest = rest' := by
  obtain ⟨path, backend⟩ := x
  obtain ⟨path', backend'⟩ := y
  obtain ⟨paths, h⟩ := named_told (by decide) hx.1 hy.1 h
  obtain ⟨backends, h⟩ := named_told (by decide) hx.2 hy.2 h
  dsimp only at paths backends
  rw [paths, backends]
  exact ⟨rfl, same_told h⟩

theorem listen_text_told {x y : Server}
    (h : linesThen (listenLines x) rest = linesThen (listenLines y) rest') :
    x.port = y.port ∧ x.tls.isSome = y.tls.isSome ∧ rest = rest' := by
  obtain ⟨moreX, hx, restX⟩ := listenLines_eq x
  obtain ⟨moreY, hy, restY⟩ := listenLines_eq y
  rw [hx, hy] at h
  obtain ⟨sockets, behind⟩ := directive_told h
  obtain ⟨port, kind⟩ := Socket.mk.inj sockets
  have kinds : ∀ p q : Bool, (if p then SocketKind.tls else .plain) = (if q then .tls else .plain) →
      p = q := by decide
  have secured := kinds _ _ kind
  rw [restX, restY, secured] at behind
  exact ⟨port, secured, List.append_cancel_left behind⟩

/-- No entry of a route table begins like the end of a server. -/
theorem location_apart (l : Location) (rest rest' : List Char) :
    linesThen (locationLines l) rest ≠ linesThen ["    \x7d"] rest' := by
  intro same
  simp [locationLines, String.toList_append] at same

theorem server_text_told {x y : Server} (hx : x.Delimited) (hy : y.Delimited)
    (h : linesThen (serverLines x) rest = linesThen (serverLines y) rest') :
    x.view = y.view ∧ rest = rest' := by
  have parts : ∀ (s : Server) (rest : List Char), linesThen (serverLines s) rest =
      linesThen (["", "    server \x7b"] ++ ["        server_name " ++ s.hostname ++ ";"])
        (linesThen (listenLines s)
          (linesThen (s.locations.flatMap locationLines ++ ["    \x7d"]) rest)) := by
    intro s rest
    rw [← linesThen_append, ← linesThen_append, serverLines]
    simp only [List.append_assoc, List.cons_append, List.nil_append]
  rw [parts, parts] at h
  obtain ⟨hostname, h⟩ := named_told (by decide) hx.1 hy.1 (front_told _ h)
  rw [linesThen_nil, linesThen_nil] at h
  obtain ⟨port, secured, h⟩ := listen_text_told h
  obtain ⟨locations, same⟩ := items_told location_text_told location_apart hx.2 hy.2 h
  rw [List.map_id', List.map_id'] at locations
  exact ⟨by rw [Server.view, Server.view, hostname, port, secured, locations], same⟩

/-- The text of a service tells what is shown of it, and whether it is one of UDP. -/
theorem service_text_told {x y : Bool × Service} (hx : x.2.Delimited) (hy : y.2.Delimited)
    (h : linesThen (serviceLines x.1 x.2) rest = linesThen (serviceLines y.1 y.2) rest') :
    (x.1, x.2.view) = (y.1, y.2.view) ∧ rest = rest' := by
  have parts : ∀ (x : Bool × Service) (rest : List Char), linesThen (serviceLines x.1 x.2) rest =
      linesThen (["", "    server \x7b"] ++
          [Socket.directive ⟨x.2.port, if x.1 then .udp else .plain⟩])
        (linesThen (if x.2.proxyProtocol then ["        proxy_protocol on;"] else [])
          (linesThen ["        set $proxy_upstream_name \"" ++ x.2.backend ++ "\";",
            "        proxy_pass upstream_balancer;", "    \x7d"] rest)) := by
    rintro ⟨udp, s⟩ rest
    rw [← linesThen_append, ← linesThen_append, serviceLines, List.append_assoc]
    cases udp <;> rfl
  rw [parts, parts] at h
  obtain ⟨sockets, h⟩ := directive_told (front_told _ h)
  obtain ⟨port, kind⟩ := Socket.mk.inj sockets
  have kinds : ∀ p q : Bool, (if p then SocketKind.udp else .plain) = (if q then .udp else .plain) →
      p = q := by decide
  have udp := kinds _ _ kind
  -- the ninth character tells whether the line for the proxy protocol is there
  have proxyProtocol : x.2.proxyProtocol = y.2.proxyProtocol := by
    cases hx : x.2.proxyProtocol <;> cases hy : y.2.proxyProtocol <;>
      simp [hx, hy, String.toList_append] at h ⊢
  rw [proxyProtocol, linesThen_nil, linesThen_nil] at h
  obtain ⟨backend, h⟩ := named_told (by decide) hx hy (List.append_cancel_left h)
  refine ⟨by rw [udp, Service.view, Service.view, port, proxyProtocol, backend], ?_⟩
  simpa using h

end

/-! ## Services below HTTP -/

/-- The services of both kinds, each with whether it is one of UDP. -/
def flagged (tcp udp : List Service) : List (Bool × Service) := tcp.map (false, ·) ++ udp.map (true, ·)

theorem serviceLines_flagged (tcp udp : List Service) :
    tcp.flatMap (serviceLines false) ++ udp.flatMap (serviceLines true) =
      (flagged tcp udp).flatMap fun x => serviceLines x.1 x.2 := by
  simp [flagged, List.flatMap_map]

section

variable {tcp udp tcp' udp' : List Service}

theorem views_of_flagged (h : (flagged tcp udp).map (fun x => (x.1, x.2.view)) =
    (flagged tcp' udp').map fun x => (x.1, x.2.view)) :
    tcp.map Service.view = tcp'.map Service.view ∧ udp.map Service.view = udp'.map Service.view := by
  have kind : ∀ (which : Bool) (tcp udp : List Service),
      ((flagged tcp udp).map fun x => (x.1, x.2.view)).filterMap
          (fun x => if x.1 = which then some x.2 else none) =
        if which then udp.map Service.view else tcp.map Service.view := by
    intro which tcp udp
    cases which <;> simp [flagged, List.filterMap_map, Function.comp_def]
  have tcpViews := kind false tcp udp
  have udpViews := kind true tcp udp
  rw [h, kind] at tcpViews udpViews
  exact ⟨tcpViews.symm, udpViews.symm⟩

/-- The text of the services tells what is shown of them. -/
theorem streamLines_told (hx : ∀ x ∈ tcp ++ udp, x.Delimited) (hy : ∀ y ∈ tcp' ++ udp', y.Delimited)
    (h : linesThen (streamLines tcp udp) [] = linesThen (streamLines tcp' udp') []) :
    tcp.map Service.view = tcp'.map Service.view ∧ udp.map Service.view = udp'.map Service.view := by
  have delimited : ∀ tcp udp : List Service, (∀ x ∈ tcp ++ udp, x.Delimited) →
      ∀ x ∈ flagged tcp udp, x.2.Delimited := by
    intro tcp udp all x hx
    simp only [flagged, List.mem_append, List.mem_map] at hx
    rcases hx with ⟨s, hs, rfl⟩ | ⟨s, hs, rfl⟩
    · exact all s (List.mem_append_left _ hs)
    · exact all s (List.mem_append_right _ hs)
  have apart : ∀ (x : Bool × Service) (rest rest' : List Char),
      linesThen (serviceLines x.1 x.2) rest ≠ linesThen ["\x7d"] rest' := by
    intro x rest rest' same
    simp [serviceLines] at same
  rw [streamLines, streamLines, List.append_assoc _ (tcp.flatMap _), serviceLines_flagged,
    List.append_assoc _ (tcp'.flatMap _), serviceLines_flagged] at h
  split at h
  · rename_i none
    split at h
    · rename_i none'
      obtain ⟨rfl, rfl⟩ : tcp = [] ∧ udp = [] := by simpa using none
      obtain ⟨rfl, rfl⟩ : tcp' = [] ∧ udp' = [] := by simpa using none'
      exact ⟨rfl, rfl⟩
    · simp at h
  · split at h
    · simp at h
    · rw [List.append_assoc, List.append_assoc] at h
      exact views_of_flagged
        (items_told service_text_told apart (delimited _ _ hx) (delimited _ _ hy) (front_told _ h)).1

/-- The lines of a service show its view. -/
theorem flatMap_serviceLines (kind : Bool) (services : List Service) :
    services.flatMap (serviceLines kind) = (services.map Service.view).flatMap
      fun v => serviceLines kind ⟨v.port, v.backend, [], v.proxyProtocol⟩ := by
  rw [List.flatMap_map]
  rfl

theorem streamLines_of_views (tcpViews : tcp.map Service.view = tcp'.map Service.view)
    (udpViews : udp.map Service.view = udp'.map Service.view) :
    streamLines tcp udp = streamLines tcp' udp' := by
  have tcpEmpty : tcp.isEmpty = tcp'.isEmpty := by
    simpa using congrArg List.isEmpty tcpViews
  have udpEmpty : udp.isEmpty = udp'.isEmpty := by
    simpa using congrArg List.isEmpty udpViews
  rw [streamLines, streamLines, tcpEmpty, udpEmpty, flatMap_serviceLines false tcp,
    flatMap_serviceLines true udp, tcpViews, udpViews, ← flatMap_serviceLines, ← flatMap_serviceLines]

end

/-! ## Artifacts -/

section

variable {a b : Snapshot} {c : RenderContext} {artifact : String}

/-- The second line of an artifact tells the generation. -/
theorem generation_told (ha : render a c = .ok artifact) (hb : render b c = .ok artifact) :
    a.generation = b.generation := by
  have texts : ∀ s : Snapshot, (ofLines (lines s c)).toList =
      linesThen (headerLines s c) (ofLines (bodyLines s c)).toList := by
    intro s
    rw [lines, toList_ofLines_append, linesThen]
  have h := congrArg String.toList ((eq_of_render ha).symm.trans (eq_of_render hb))
  rw [texts, texts] at h
  -- the first line is the same, and a generation has no line feed in it
  have second := front_told ["# Configuration checksum: " ++ String.ofList c.fingerprint.text] h
  rw [linesThen_cons, linesThen_cons] at second
  have line := (line_told (headerLines_oneLine a c _ (by simp [headerLines]))
    (headerLines_oneLine b c _ (by simp [headerLines])) second).1
  rw [String.toList_inj, String.append_right_inj] at line
  exact (Json.Shape.integer .int64).render_injective IntegerRange.int64_fits line

/-- **An artifact tells what it shows of its snapshot**, when all names are delimited. -/
theorem view_told (ha : render a c = .ok artifact) (hb : render b c = .ok artifact)
    (da : a.Delimited) (db : b.Delimited) : a.view = b.view := by
  have parts : ∀ {s : Snapshot}, render s c = .ok artifact → body artifact =
      linesThen (linesInFront c) (linesThen (s.servers.flatMap serverLines ++ ["\x7d"])
        (linesThen (streamLines s.tcpServices s.udpServices) [])) := by
    intro s h
    rw [body_parts h, serversText, linesBehind, toList_ofLines_append, linesThen_append]
    simp only [linesThen, List.append_nil]
  have h := List.append_cancel_left ((parts ha).symm.trans (parts hb))
  have apart : ∀ (s : Server) (rest rest' : List Char),
      linesThen (serverLines s) rest ≠ linesThen ["\x7d"] rest' := by
    intro s rest rest' same
    simp [serverLines] at same
  obtain ⟨servers, h⟩ := items_told server_text_told apart da.1 db.1 h
  obtain ⟨tcp, udp⟩ := streamLines_told da.2 db.2 h
  rw [Snapshot.view, Snapshot.view, generation_told ha hb, servers, tcp, udp]

/-- Snapshots of which an artifact would show the same have the same one. -/
theorem render_of_views (ha : render a c = .ok artifact) (coherent : incoherence? b = none)
    (h : a.view = b.view) : render b c = .ok artifact := by
  obtain ⟨generation, servers, tcp, udp⟩ := SnapshotView.mk.inj h
  have same : lines a c = lines b c := by
    rw [lines, lines, headerLines, headerLines, generation, bodyLines, bodyLines,
      serverLines_of_views servers, streamLines_of_views tcp udp]
  rw [render, coherent, ← same, ← eq_of_render ha]

end

end Artifact

end IngressControl
