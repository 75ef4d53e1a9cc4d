import IngressControl.Proofs.Json.Edits
import IngressControl.Proofs.SnapshotText

/-!
# What the text of a snapshot has to hold

Others than this controller write snapshots, each in its own way: with the members of an object in
another order, with members that are unknown here, and without the fields whose values go without saying.
The table of edits below says which fields may be left out, and when; everything else has to be there.
It is told without the shapes, which are read by it (`Snapshot.follows`).

So the text of a snapshot means the same in all its edited forms, and a form in which something is
missing is refused with the name of it (`Snapshot.parse_edited`).
-/

namespace IngressControl

open Json (Shape Field Fields Edits)
open IntegerRange (uint16_fits uint32_fits int64_fits)

/-! ## The table -/

def Endpoint.edits (e : Endpoint) : Edits :=
  .record [
    ("address", .required (.text e.address)),
    ("port", .required (.integer e.port.toNat)),
    ("weight", .defaulted (e.weight = 1) (.integer e.weight.toNat))]

def Backend.edits (b : Backend) : Edits :=
  .record [
    ("name", .required (.text b.name)),
    ("endpoints", .defaulted (b.endpoints = []) (.list (b.endpoints.map Endpoint.edits))),
    ("load_balance", .defaulted (b.loadBalance = none) (.orNull .text b.loadBalance))]

def Location.edits (l : Location) : Edits :=
  .record [("path", .required (.text l.path)), ("backend", .required (.text l.backend))]

def Certificate.edits (c : Certificate) : Edits :=
  .record [
    ("name", .defaulted (c.name = "") (.text c.name)),
    ("pem", .required (.text c.pem)),
    ("serial_number", .defaulted (c.serialNumber = none) (.orNull .text c.serialNumber)),
    ("expires_at",
      .defaulted (c.expiresAt = none) (.orNull (fun t => .integer t.toInt) c.expiresAt))]

def DhParam.edits (d : DhParam) : Edits :=
  .record [("name", .required (.text d.name)), ("content", .required (.text d.content))]

def Server.edits (s : Server) : Edits :=
  .record [
    ("hostname", .required (.text s.hostname)),
    ("port", .required (.integer s.port.toNat)),
    ("tls", .defaulted (s.tls = none) (.orNull Certificate.edits s.tls)),
    ("locations", .defaulted (s.locations = []) (.list (s.locations.map Location.edits)))]

def Service.edits (s : Service) : Edits :=
  .record [
    ("port", .required (.integer s.port.toNat)),
    ("backend", .required (.text s.backend)),
    ("endpoints", .defaulted (s.endpoints = []) (.list (s.endpoints.map Endpoint.edits))),
    ("proxy_protocol", .defaulted (s.proxyProtocol = false) (.flag s.proxyProtocol))]

/-- Every field of a snapshot may be left out when it has its default. -/
def Snapshot.edits (s : Snapshot) : Edits :=
  .record [
    ("generation", .defaulted (s.generation = 0) (.integer s.generation.toInt)),
    ("source_checksum", .defaulted (s.sourceChecksum = "") (.text s.sourceChecksum)),
    ("backends", .defaulted (s.backends = []) (.list (s.backends.map Backend.edits))),
    ("servers", .defaulted (s.servers = []) (.list (s.servers.map Server.edits))),
    ("tcp_services", .defaulted (s.tcpServices = []) (.list (s.tcpServices.map Service.edits))),
    ("udp_services", .defaulted (s.udpServices = []) (.list (s.udpServices.map Service.edits))),
    ("default_certificate",
      .defaulted (s.defaultCertificate = none) (.orNull Certificate.edits s.defaultCertificate)),
    ("dh_param", .defaulted (s.dhParam = none) (.orNull DhParam.edits s.dhParam))]

/-! ## The shapes go by the table -/

attribute [local simp] Fields.names

theorem Endpoint.follows (e : Endpoint) : Endpoint.shape.Follows e e.edits := by
  refine Shape.follows_record (.cons (by simp) (.required (Shape.follows_text _)) ?_)
  refine .cons (by simp) (.required (Shape.follows_integer uint16_fits _)) ?_
  exact .cons (by simp) (.defaulted (Shape.follows_integer uint32_fits _)) .nil

theorem Backend.follows (b : Backend) : Backend.shape.Follows b b.edits := by
  refine Shape.follows_record (.cons (by simp) (.required (Shape.follows_text _)) ?_)
  refine .cons (by simp) (.defaulted (Shape.follows_list Endpoint.follows _)) ?_
  exact .cons (by simp) (.optional Shape.follows_text) .nil

theorem Location.follows (l : Location) : Location.shape.Follows l l.edits := by
  refine Shape.follows_record (.cons (by simp) (.required (Shape.follows_text _)) ?_)
  exact .cons (by simp) (.required (Shape.follows_text _)) .nil

theorem Certificate.follows (c : Certificate) : Certificate.shape.Follows c c.edits := by
  refine Shape.follows_record (.cons (by simp) (.defaulted (Shape.follows_text _)) ?_)
  refine .cons (by simp) (.required (Shape.follows_text _)) ?_
  refine .cons (by simp) (.optional Shape.follows_text) ?_
  exact .cons (by simp) (.optional (Shape.follows_integer int64_fits)) .nil

theorem DhParam.follows (d : DhParam) : DhParam.shape.Follows d d.edits := by
  refine Shape.follows_record (.cons (by simp) (.required (Shape.follows_text _)) ?_)
  exact .cons (by simp) (.required (Shape.follows_text _)) .nil

theorem Server.follows (s : Server) : Server.shape.Follows s s.edits := by
  refine Shape.follows_record (.cons (by simp) (.required (Shape.follows_text _)) ?_)
  refine .cons (by simp) (.required (Shape.follows_integer uint16_fits _)) ?_
  refine .cons (by simp) (.optional Certificate.follows) ?_
  exact .cons (by simp) (.defaulted (Shape.follows_list Location.follows _)) .nil

theorem Service.follows (s : Service) : Service.shape.Follows s s.edits := by
  refine Shape.follows_record (.cons (by simp) (.required (Shape.follows_integer uint16_fits _)) ?_)
  refine .cons (by simp) (.required (Shape.follows_text _)) ?_
  refine .cons (by simp) (.defaulted (Shape.follows_list Endpoint.follows _)) ?_
  exact .cons (by simp) (.defaulted (Shape.follows_flag _)) .nil

theorem Snapshot.follows (s : Snapshot) : Snapshot.shape.Follows s s.edits := by
  refine Shape.follows_record (.cons (by simp) (.defaulted (Shape.follows_integer int64_fits _)) ?_)
  refine .cons (by simp) (.defaulted (Shape.follows_text _)) ?_
  refine .cons (by simp) (.defaulted (Shape.follows_list Backend.follows _)) ?_
  refine .cons (by simp) (.defaulted (Shape.follows_list Server.follows _)) ?_
  refine .cons (by simp) (.defaulted (Shape.follows_list Service.follows _)) ?_
  refine .cons (by simp) (.defaulted (Shape.follows_list Service.follows _)) ?_
  refine .cons (by simp) (.optional Certificate.follows) ?_
  exact .cons (by simp) (.optional DhParam.follows) .nil

/-- **A snapshot is read from all edited forms of its text**, in which members stand in another order,
others are added that are none of its fields, and fields are left out that have their default. If a
field without a default is left out anywhere, the text is refused with the name of such a field. -/
theorem Snapshot.parse_edited (s : Snapshot) : s.edits [] s.render.toList ∧
    ∀ missing text, s.edits missing text →
      (missing = [] → parse (String.ofList text) = .ok s) ∧
        (missing ≠ [] → ∃ name ∈ missing,
          parse (String.ofList text) = .error (.mismatch (.missingField name))) := by
  refine ⟨?_, fun missing text edited => s.follows.parse edited⟩
  rw [render, Shape.render, String.toList_ofList]
  exact s.follows.written

/-! ## A snapshot as somebody else writes it -/

/-- A backend with one endpoint. -/
def web : Backend where
  name := "web"
  endpoints := [{ address := "10.0.0.1", port := 80 }]

/-- A snapshot of that backend. -/
def webOnly : Snapshot where
  generation := 7
  backends := [web]

/-- Its text with a remark in it, the members in another order, and without what goes without saying. -/
def remarked (endpoint : List (String × List Char)) : List Char :=
  Json.object [("remark", "\x7b\"by\":[null, true]\x7d".toList),
    ("backends", Json.list [Json.object
      [("endpoints", Json.list [Json.object endpoint]), ("name", Json.quoted "web")]]),
    ("generation", ['7'])]

theorem isValue_remark : Json.IsValue "\x7b\"by\":[null, true]\x7d".toList := by
  have blank : Json.Spaces [' '] := List.forall_mem_singleton.mpr (by decide)
  have list := Json.Written.nested .list (.more (.list Json.spaces_nil) .null Json.spaces_nil
    (.last (.list blank) (.boolean true) Json.spaces_nil))
  have b : Json.IsCharacter ['b'] := .plain (by decide) (by decide) (by decide)
  have y : Json.IsCharacter ['y'] := .plain (by decide) (by decide) (by decide)
  have key : Json.IsStringRest ['b', 'y', '"'] := .character b (.character y .close)
  exact .nested .object
    (.last (.object Json.spaces_nil key Json.spaces_nil Json.spaces_nil) list Json.spaces_nil)

theorem edits_remarked {missing : List String} {endpoint : List (String × List Char)}
    (edited : Endpoint.edits ⟨"10.0.0.1", 80, 1⟩ missing (Json.object endpoint)) :
    webOnly.edits missing (remarked endpoint) := by
  have one : ∀ {item : Edits} {text : List Char}, item missing text →
      Edits.list [item] missing (Json.list [text]) := by
    intro item text h
    refine ⟨[text], ?_, rfl⟩
    rw [← List.append_nil missing]
    exact .cons h .nil
  have backend : web.edits missing (Json.object
      [("endpoints", Json.list [Json.object endpoint]), ("name", Json.quoted "web")]) := by
    refine ⟨[("name", Json.quoted "web"), ("endpoints", Json.list [Json.object endpoint])], [], _, ?_,
      by simp, List.reverse_perm [_, _], rfl⟩
    rw [← List.append_nil missing]
    exact .whole ⟨rfl, rfl⟩ (.kept (one edited) (.spared rfl .nil))
  refine ⟨[("generation", ['7']), ("backends", _)], [("remark", _)], _, ?_, ?_,
    List.reverse_perm [_, _, _], rfl⟩
  · rw [← List.append_nil missing]
    exact .whole ⟨rfl, rfl⟩ (.spared rfl (.kept (one backend)
      (.spared rfl (.spared rfl (.spared rfl (.spared rfl (.spared rfl .nil)))))))
  · exact List.forall_mem_singleton.mpr ⟨by decide, isValue_remark⟩

/-- The remark and the order change nothing. Without its address the endpoint is refused. -/
theorem webOnly_parse_edited :
    (webOnly.edits [] (remarked [("port", ['8', '0']), ("address", Json.quoted "10.0.0.1")]) ∧
      Snapshot.parse (String.ofList
        (remarked [("port", ['8', '0']), ("address", Json.quoted "10.0.0.1")])) = .ok webOnly) ∧
    webOnly.edits ["address"] (remarked [("port", ['8', '0'])]) ∧
      Snapshot.parse (String.ofList (remarked [("port", ['8', '0'])])) =
        .error (.mismatch (.missingField "address")) := by
  have whole : webOnly.edits []
      (remarked [("port", ['8', '0']), ("address", Json.quoted "10.0.0.1")]) := by
    refine edits_remarked
      ⟨[("address", _), ("port", _)], [], _, ?_, by simp, List.reverse_perm [_, _], rfl⟩
    exact .whole ⟨rfl, rfl⟩ (.whole ⟨rfl, rfl⟩ (.spared rfl .nil))
  have lacking : webOnly.edits ["address"] (remarked [("port", ['8', '0'])]) := by
    refine edits_remarked ⟨[("port", _)], [], _, ?_, by simp, .refl _, rfl⟩
    exact .missed (.whole ⟨rfl, rfl⟩ (.spared rfl .nil))
  refine ⟨⟨whole, ((Snapshot.parse_edited webOnly).2 _ _ whole).1 rfl⟩, lacking, ?_⟩
  obtain ⟨name, lacks, refused⟩ := ((Snapshot.parse_edited webOnly).2 _ _ lacking).2 (by decide)
  rw [refused, List.mem_singleton.mp lacks]

end IngressControl
