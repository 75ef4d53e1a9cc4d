import IngressControl.Proofs.ArtifactDecoding
import IngressControl.Proofs.Coherence

/-!
# One artifact of many snapshots

Two snapshots with the same artifact should be the same in all that an artifact shows. For delimited names
they are. Other names are not refused, though, and nothing in them is escaped: a hostname that ends its
own line can go on with any lines at all, those of a route table and of a whole server among them.

So an artifact of many servers is also the artifact of one server, whose hostname holds all the others
(`render_collapsed`). The check for a snapshot's coherence looks at hostnames and route tables, and what
stands inside of a name it does not see: the forged server has no locations whose backends could be
unknown.
-/

namespace IngressControl

open Artifact

/-! ## Servers inside of a hostname -/

/-- The lines of a server behind its hostname. -/
def Server.linesBehindName (s : Server) : List String :=
  listenLines s ++ s.locations.flatMap locationLines ++ ["    \x7d"]

/-- A server that holds another one in its hostname, in front of its own. -/
def Server.absorb (x y : Server) : Server :=
  { y with hostname := x.hostname ++ ";\n" ++ ofLines (x.linesBehindName ++ ["", "    server \x7b"]) ++
      "        server_name " ++ y.hostname }

/-- The last one of some servers, with all others in its hostname. -/
def Server.absorbAll : Server → List Server → Server
  | x, [] => x
  | x, y :: ys => (x.absorb y).absorbAll ys

/-- A snapshot with one server in place of all. -/
def Snapshot.collapsed (s : Snapshot) : Snapshot :=
  match s.servers with
  | [] => s
  | x :: ys => { s with servers := [x.absorbAll ys] }

namespace Artifact

variable {a b s : Snapshot} {c : RenderContext} {artifact artifact' : String}

theorem linesThen_absorb (x y : Server) (rest : List Char) :
    linesThen (serverLines (x.absorb y)) rest =
      linesThen (serverLines x) (linesThen (serverLines y) rest) := by
  have behind : ∀ s : Server, serverLines s =
      "" :: "    server \x7b" :: ("        server_name " ++ s.hostname ++ ";") ::
        s.linesBehindName := by
    intro s
    rw [serverLines, Server.linesBehindName]
    simp only [List.append_assoc, List.cons_append, List.nil_append]
  -- only the name is another one, and the text of its lines stands in it
  have same : (x.absorb y).linesBehindName = y.linesBehindName := rfl
  have text : ∀ lines rest, (ofLines lines).toList ++ rest = linesThen lines rest := fun _ _ => rfl
  rw [behind, behind, behind, same]
  simp [Server.absorb, String.toList_append, text]

/-- The server that holds the others has the text of all of them. -/
theorem linesThen_absorbAll : ∀ (ys : List Server) (x : Server) (rest : List Char),
    linesThen (serverLines (x.absorbAll ys)) rest =
      linesThen ((x :: ys).flatMap serverLines) rest := by
  intro ys
  induction ys with
  | nil =>
    intro x rest
    rw [Server.absorbAll, List.flatMap_cons, List.flatMap_nil, List.append_nil]
  | cons y ys ih =>
    intro x rest
    rw [Server.absorbAll, ih]
    simp only [List.flatMap_cons, linesThen_append, linesThen_absorb]

/-- What coherence asks of each server by itself. -/
def Sound (backends : List Backend) (s : Server) : Prop :=
  (∃ ch ∈ s.hostname.toList, isBlank ch = false) ∧
    ∀ l ∈ s.locations, ∃ b ∈ backends, b.name = l.backend

theorem Sound.absorbAll {backends : List Backend} : ∀ {ys : List Server} {x : Server},
    Sound backends x → (∀ y ∈ ys, Sound backends y) → Sound backends (x.absorbAll ys) := by
  intro ys
  induction ys with
  | nil => exact fun hx _ => hx
  | cons y ys ih =>
    intro x hx hy
    obtain ⟨⟨ch, inside, ink⟩, declared⟩ := hy y (by simp)
    refine ih ⟨⟨ch, ?_, ink⟩, declared⟩ fun y' h' => hy y' (by simp [h'])
    rw [Server.absorb, String.toList_append]
    exact List.mem_append_right _ inside

theorem coherent_collapsed (h : s.Coherent) : s.collapsed.Coherent := by
  unfold Snapshot.collapsed
  split
  · exact h
  · rename_i x ys servers
    have sound : ∀ y ∈ s.servers, Sound s.backends y := fun y hy => ⟨h.named y hy, h.declared y hy⟩
    rw [servers, List.forall_mem_cons] at sound
    have whole := sound.1.absorbAll sound.2
    refine ⟨?_, List.nodup_singleton _, ?_⟩
    · exact List.forall_mem_singleton.mpr whole.1
    · exact List.forall_mem_singleton.mpr whole.2

/-- Artifacts that begin and end alike are the same when the servers have the same text. -/
theorem ofLines_lines_congr {t : Snapshot} (generation : s.generation = t.generation)
    (behind : linesBehind s = linesBehind t)
    (servers : ∀ rest, linesThen (s.servers.flatMap serverLines) rest =
      linesThen (t.servers.flatMap serverLines) rest) :
    ofLines (lines s c) = ofLines (lines t c) := by
  have parts : ∀ s : Snapshot, (ofLines (lines s c)).toList =
      linesThen (headerLines s c ++ linesInFront c) (linesThen (s.servers.flatMap serverLines)
        (linesThen (linesBehind s) [])) := by
    intro s
    rw [lines, bodyLines, linesInFront, linesBehind, ← linesThen_append, ← linesThen_append,
      linesThen, List.append_nil]
    simp only [List.append_assoc]
  refine String.toList_inj.mp ?_
  rw [parts, parts, servers, behind, headerLines, headerLines, generation]

/-- **An artifact is also that of the collapsed snapshot.** -/
theorem render_collapsed (h : render s c = .ok artifact) : render s.collapsed c = .ok artifact := by
  have coherent := incoherence?_eq_none_iff.mpr (coherent_collapsed (coherent_of_render h))
  rw [render, coherent, eq_of_render h]
  refine congrArg Except.ok ?_
  unfold Snapshot.collapsed
  split
  · rfl
  · rename_i x ys servers
    refine ofLines_lines_congr rfl rfl fun rest => ?_
    rw [List.flatMap_singleton, linesThen_absorbAll, servers]

/-! ## What is told and what is not -/

/-- **What an artifact tells of its snapshot.** The generation in any case, and all that it shows when
the names are delimited. That condition is needed: each artifact with a server in it is also that of a
snapshot with one server only. -/
theorem view_told_iff (ha : render a c = .ok artifact) (hb : render b c = .ok artifact') :
    (artifact = artifact' → a.generation = b.generation) ∧
      (a.Delimited → b.Delimited → (artifact = artifact' ↔ a.view = b.view)) ∧
      (a.servers ≠ [] → ∃ forged : Snapshot, render forged c = .ok artifact ∧
        forged.servers.length = 1) := by
  refine ⟨?_, ?_, ?_⟩
  · rintro rfl
    exact generation_told ha hb
  · intro da db
    constructor
    · rintro rfl
      exact view_told ha hb da db
    · intro same
      have coherent := incoherence?_eq_none_iff.mpr (coherent_of_render hb)
      rw [render_of_views ha coherent same] at hb
      exact Except.ok.inj hb
  · intro some
    refine ⟨a.collapsed, render_collapsed ha, ?_⟩
    obtain ⟨x, ys, servers⟩ := List.exists_cons_of_ne_nil some
    rw [Snapshot.collapsed, servers]
    rfl

/-- A server with a name that holds a line feed, a brace and a semicolon. -/
def oddlyNamed (path : String) : Snapshot where
  backends := [{ name := "a\"; \x7d" }]
  servers := [{
    hostname := "a\n\x7b;b"
    port := 80
    locations := [{ path, backend := "a\"; \x7d" }] }]

/-- Such names are delimited, and the law says that paths that differ in a line feed are told. -/
theorem oddlyNamed_told : ∃ x y, render (oddlyNamed "/") plainContext = .ok x ∧
    render (oddlyNamed "/\n") plainContext = .ok y ∧
      (x = y ↔ (oddlyNamed "/").view = (oddlyNamed "/\n").view) :=
  ⟨_, _, rfl, rfl, (view_told_iff (c := plainContext) rfl rfl).2.1 (by decide) (by decide)⟩

/-- Two servers, the first one with a location. -/
def twoServers : Snapshot where
  backends := [{ name := "ghost" }]
  servers := [
    { hostname := "a.example", port := 80, locations := [{ path := "/", backend := "ghost" }] },
    { hostname := "b.example", port := 80 }]

/-- One server without a location and without a backend that it could lead to. -/
def oneServer : Snapshot where
  servers := [{
    hostname := "a.example;\n        listen 80;\n        location / \x7b\n" ++
      "            set $proxy_upstream_name \"ghost\";\n" ++
      "            proxy_pass http://upstream_balancer;\n        \x7d\n    \x7d\n\n" ++
      "    server \x7b\n        server_name b.example"
    port := 80 }]

/-- **A hostname can be read as directives.** Both artifacts are rendered, and they are the same. -/
theorem view_not_told : ¬∀ (a b : Snapshot) (c : RenderContext) (artifact : String),
    render a c = .ok artifact → render b c = .ok artifact → a.view = b.view := by
  intro law
  obtain ⟨artifact, genuine⟩ : ∃ x, render twoServers plainContext = .ok x := ⟨_, rfl⟩
  have forged : render oneServer plainContext = .ok artifact := by
    have servers : oneServer.servers = twoServers.collapsed.servers := by decide +kernel
    have same : ofLines (lines oneServer plainContext) =
        ofLines (lines twoServers.collapsed plainContext) :=
      ofLines_lines_congr rfl rfl fun rest => by rw [servers]
    have named := (coherent_collapsed (coherent_of_render genuine)).named
    rw [← servers] at named
    have coherent : oneServer.Coherent := ⟨named, List.nodup_singleton _, by simp [oneServer]⟩
    rw [render, incoherence?_eq_none_iff.mpr coherent, same, eq_of_render (render_collapsed genuine)]
  have told := law oneServer twoServers plainContext artifact forged genuine
  have servers : 1 = 2 := congrArg (fun view : SnapshotView => view.servers.length) told
  exact absurd servers (by decide)

end Artifact

end IngressControl
