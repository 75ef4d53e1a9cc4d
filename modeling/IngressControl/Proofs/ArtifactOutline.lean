import IngressControl.Proofs.ArtifactText
import IngressControl.Text.Split
import Mathlib.Data.List.Forall2

/-!
# The outline of an artifact

Which ports the proxy listens on is told twice: once by the configuration, which is asked whether a change
needs a reload, and once by the listen directives of the artifact, which the proxy goes by. They agree.
The directives are found here as a reader of the text finds them, by the first word of a line, and the
port by the text behind that word; nothing is assumed of how the lines were made, but that no name brings
a line feed with it.

Three kinds of lines are landmarks (`landmark?`): those that open a socket, a server, or the block of the
services below HTTP. All other lines have a first word of their own that no name can change, as it
stands in front of the name. So the outline of an artifact is known line by line
(`landmarks_lines`), and `artifact_outline` reads off it what it says.
-/

namespace IngressControl

namespace Artifact

/-! ## Lines by their words -/

/-- The first word of a line. -/
def firstWord (line : List Char) : List Char :=
  (line.dropWhile isBlank).takeWhile fun c => !isBlank c

/-- The text of a line behind its first word. -/
def behindFirstWord (line : List Char) : List Char :=
  (line.dropWhile isBlank).dropWhile fun c => !isBlank c

/-- A word without the semicolon at its end. -/
def unterminated (word : List Char) : List Char :=
  if word.getLast? = some ';' then word.dropLast else word

/-- The port that a listen directive names: the second word of the line is an address, and the port is
the number behind its last colon, or all of it. -/
def listenPort? (line : List Char) : Option Nat :=
  (splitAt ':' (unterminated (firstWord (behindFirstWord line)))).getLast?.bind Decimal.toNat?

/-- The line opens a socket. -/
def IsListen (line : List Char) : Prop := firstWord line = "listen".toList

/-- The line opens a server, however far it is indented. -/
def IsServer (line : List Char) : Prop := line.dropWhile (· = ' ') = "server \x7b".toList

/-- The line opens the block of the services below HTTP. -/
def IsStream (line : List Char) : Prop := line = "stream \x7b".toList

instance : DecidablePred IsListen := fun _ => inferInstanceAs (Decidable (_ = _))

instance : DecidablePred IsServer := fun _ => inferInstanceAs (Decidable (_ = _))

instance : DecidablePred IsStream := fun _ => inferInstanceAs (Decidable (_ = _))

/-- A line that the outline of an artifact is made of. -/
inductive Landmark where
  | socket (port : Option Nat)
  | server
  | stream
deriving DecidableEq

/-- The port of a socket. -/
def Landmark.port? : Landmark → Option (Option Nat)
  | .socket port => some port
  | _ => none

/-- What a line is in the outline. -/
def landmark? (line : List Char) : Option Landmark :=
  if IsListen line then some (.socket (listenPort? line))
  else if IsServer line then some .server
  else if IsStream line then some .stream
  else none

/-- The outline of some lines. -/
def landmarks (lines : List String) : List Landmark := lines.filterMap fun line => landmark? line.toList

theorem firstWord_of_indented (line : List Char) :
    firstWord (line.dropWhile (· = ' ')) = firstWord line := by
  induction line with
  | nil => rfl
  | cons c line ih =>
    by_cases space : c = ' '
    · subst space
      rw [List.dropWhile_cons_of_pos (by simp), ih]
      rfl
    · rw [List.dropWhile_cons_of_neg (by simpa using space)]

/-- No line is a landmark in two ways, as its first word tells which one it is. -/
theorem IsServer.firstWord {line : List Char} (h : IsServer line) :
    Artifact.firstWord line = "server".toList := by
  rw [← firstWord_of_indented, h]
  decide

theorem IsStream.firstWord {line : List Char} (h : IsStream line) :
    Artifact.firstWord line = "stream".toList := by
  rw [h]
  decide

section

variable {line : List Char}

theorem port?_landmark? : (landmark? line).bind Landmark.port? =
    if IsListen line then some (listenPort? line) else none := by
  unfold landmark?
  by_cases listen : IsListen line
  · simp [listen, Landmark.port?]
  · by_cases server : IsServer line
    · simp [listen, server, Landmark.port?]
    · by_cases stream : IsStream line <;> simp [listen, server, stream, Landmark.port?]

theorem landmark?_eq_server : landmark? line = some .server ↔ IsServer line := by
  unfold landmark?
  by_cases server : IsServer line
  · have other : ¬IsListen line := by
      rw [IsListen, server.firstWord]
      decide
    simp [server, other]
  · by_cases listen : IsListen line
    · simp [server, listen]
    · by_cases stream : IsStream line <;> simp [server, listen, stream]

theorem landmark?_eq_stream : landmark? line = some .stream ↔ IsStream line := by
  unfold landmark?
  by_cases stream : IsStream line
  · have listen : ¬IsListen line := by
      rw [IsListen, stream.firstWord]
      decide
    have server : ¬IsServer line := by
      rw [stream]
      decide
    simp [stream, listen, server]
  · by_cases listen : IsListen line
    · simp [stream, listen]
    · by_cases server : IsServer line <;> simp [stream, listen, server]

end

/-! ## What the outline of a text tells -/

section

variable {lines : List (List Char)}

/-- The ports of its sockets are those of the listen directives. -/
theorem port?_filterMap : (lines.filterMap landmark?).filterMap Landmark.port? =
    (lines.filter IsListen).map listenPort? := by
  rw [List.filterMap_filterMap]
  simp only [port?_landmark?]
  induction lines with
  | nil => rfl
  | cons line lines ih =>
    by_cases listen : IsListen line
    · simp [listen, ih]
    · simp [listen, ih]

theorem count_server : (lines.filterMap landmark?).count .server = lines.countP IsServer := by
  rw [List.count, List.countP_filterMap]
  refine List.countP_congr fun line _ => ?_
  rw [decide_eq_true_iff, ← landmark?_eq_server]
  cases landmark? line <;> simp

theorem mem_stream : .stream ∈ lines.filterMap landmark? ↔ "stream \x7b".toList ∈ lines := by
  rw [List.mem_filterMap]
  simp only [landmark?_eq_stream, IsStream, exists_eq_right]

end

/-! ## Lines with names in them -/

section

variable {opening word rest : List Char}

/-- What stands behind a first word that has ended does not change it. -/
theorem firstWord_append (ended : behindFirstWord opening ≠ []) (rest : List Char) :
    firstWord (opening ++ rest) = firstWord opening ∧
      behindFirstWord (opening ++ rest) = behindFirstWord opening ++ rest := by
  have visible : (opening.dropWhile isBlank).isEmpty = false := by
    rw [List.isEmpty_eq_false_iff]
    intro none
    exact ended (by rw [behindFirstWord, none]; rfl)
  have more : ((opening.dropWhile isBlank).dropWhile fun c => !isBlank c).isEmpty = false :=
    List.isEmpty_eq_false_iff.mpr ended
  have short : ((opening.dropWhile isBlank).takeWhile fun c => !isBlank c).length ≠
      (opening.dropWhile isBlank).length := by
    intro whole
    have parts := congrArg List.length
      (List.takeWhile_append_dropWhile (p := fun c => !isBlank c) (l := opening.dropWhile isBlank))
    rw [List.length_append, whole, Nat.add_eq_left, List.length_eq_zero_iff] at parts
    exact ended parts
  rw [firstWord, behindFirstWord, List.dropWhile_append, visible, if_neg (by simp),
    List.takeWhile_append, if_neg short, List.dropWhile_append, more, if_neg (by simp)]
  exact ⟨rfl, rfl⟩

/-- A text without blanks is a word, when a blank or nothing follows. -/
theorem firstWord_of_plain (some : word ≠ []) (plain : ∀ c ∈ word, isBlank c = false)
    (ends : rest = [] ∨ ∃ more, rest = ' ' :: more) : firstWord (word ++ rest) = word := by
  obtain ⟨c, cs, rfl⟩ := List.exists_cons_of_ne_nil some
  have first : isBlank c = false := plain c (by simp)
  rw [firstWord, List.cons_append, List.dropWhile_cons_of_neg (by simp [first]), ← List.cons_append,
    List.takeWhile_append_of_pos fun d hd => by simp [plain d hd]]
  rcases ends with rfl | ⟨more, rfl⟩
  · simp
  · simp [isBlank]

/-- A line is no landmark when it begins with another word, whatever names follow. -/
theorem landmark?_other (ended : behindFirstWord opening ≠ [])
    (other : firstWord opening ∉ ["listen".toList, "server".toList, "stream".toList])
    (rest : List Char) : landmark? (opening ++ rest) = none := by
  have first := (firstWord_append ended rest).1
  simp only [List.mem_cons, List.not_mem_nil, or_false, not_or] at other
  obtain ⟨noListen, noServer, noStream⟩ := other
  have listen : ¬IsListen (opening ++ rest) := fun h => noListen (first ▸ h)
  have server : ¬IsServer (opening ++ rest) := fun h => noServer (first ▸ h.firstWord)
  have stream : ¬IsStream (opening ++ rest) := fun h => noStream (first ▸ h.firstWord)
  simp [landmark?, listen, server, stream]

theorem isBlank_of_isDigit {c : Char} (h : c.isDigit = true) : isBlank c = false := by
  have range : 48 ≤ c.toNat ∧ c.toNat ≤ 57 := by
    simpa [Char.isDigit, UInt32.le_iff_toNat_le] using h
  simp only [isBlank, Bool.or_eq_false_iff, Bool.and_eq_false_iff, decide_eq_false_iff_not]
  omega

/-- What may stand behind an address: the end of the directive, or more words of it. -/
theorem unterminated_firstWord {address closing : List Char} (some : address ≠ [])
    (plain : ∀ c ∈ address, isBlank c = false ∧ c ≠ ';')
    (closes : closing = [';'] ∨ ∃ more, closing = ' ' :: more) :
    unterminated (firstWord (address ++ closing)) = address := by
  rcases closes with rfl | more
  · have visible : ∀ c ∈ address ++ [';'], isBlank c = false := by
      intro c hc
      rcases List.mem_append.mp hc with h | h
      · exact (plain c h).1
      · rw [List.mem_singleton.mp h]
        decide
    have word := firstWord_of_plain (by simp) visible (Or.inl rfl)
    rw [List.append_nil] at word
    simp [word, unterminated]
  · rw [firstWord_of_plain some (fun c hc => (plain c hc).1) (Or.inr more), unterminated, if_neg]
    intro semicolon
    exact (plain ';' (List.mem_of_getLast? semicolon)).2 rfl

/-- A listen directive opens a socket at the number behind the last colon of its address. -/
theorem landmark?_listen (host closing : List Char) {n : Nat}
    (plain : ∀ c ∈ host, isBlank c = false ∧ c ≠ ';')
    (last : (splitAt ':' (host ++ Decimal.ofNat n)).getLast? = some (Decimal.ofNat n))
    (closes : closing = [';'] ∨ ∃ more, closing = ' ' :: more) :
    landmark? ("        listen ".toList ++ (host ++ Decimal.ofNat n ++ closing)) =
      some (.socket (some n)) := by
  have visible : ∀ c ∈ host ++ Decimal.ofNat n, isBlank c = false ∧ c ≠ ';' := by
    intro c hc
    rcases List.mem_append.mp hc with h | h
    · exact plain c h
    · have digit := Decimal.isDigit_of_mem_ofNat h
      exact ⟨isBlank_of_isDigit digit, fun semicolon => absurd (semicolon ▸ digit) (by decide)⟩
  have ended : behindFirstWord "        listen ".toList ≠ [] := by decide
  obtain ⟨first, behind⟩ := firstWord_append ended (host ++ Decimal.ofNat n ++ closing)
  have listen : IsListen ("        listen ".toList ++ (host ++ Decimal.ofNat n ++ closing)) := by
    rw [IsListen, first]
    decide
  -- the one blank behind the first word is no part of the address
  have second : firstWord (behindFirstWord "        listen ".toList ++
      (host ++ Decimal.ofNat n ++ closing)) = firstWord (host ++ Decimal.ofNat n ++ closing) := rfl
  rw [landmark?, if_pos listen, listenPort?, behind, second,
    unterminated_firstWord (by simp [Decimal.ofNat_ne_nil]) visible closes, last, Option.bind_some,
    Decimal.toNat?_ofNat]

/-- A port is an address by itself. -/
theorem getLast?_port (n : Nat) :
    (splitAt ':' (Decimal.ofNat n)).getLast? = some (Decimal.ofNat n) := by
  rw [splitAt_of_notMem, List.getLast?_singleton]
  intro colon
  exact absurd (Decimal.isDigit_of_mem_ofNat colon) (by decide)

theorem landmark?_directive (x : Socket) :
    landmark? x.directive.toList = some (.socket (some x.port.toNat)) := by
  have closes : (Socket.marker x.kind).toList = [';'] ∨
      ∃ more, (Socket.marker x.kind).toList = ' ' :: more := by
    cases x.kind
    · exact Or.inl rfl
    · exact Or.inr ⟨_, rfl⟩
    · exact Or.inr ⟨_, rfl⟩
  have text : x.directive.toList = "        listen ".toList ++
      ([] ++ Decimal.ofNat x.port.toNat ++ (Socket.marker x.kind).toList) := by
    unfold Socket.directive portText
    simp only [String.toList_append, String.toList_ofList, List.nil_append, List.append_assoc]
  rw [text]
  exact landmark?_listen [] _ (by simp) (getLast?_port x.port.toNat) closes

end

/-! ## The parts of an artifact -/

section

variable {lines : List String} {texts : List (List Char)}

/-- The characters of lines, by which a check of fixed lines goes. -/
def Spelled : List String → List (List Char) → Prop :=
  List.Forall₂ fun line text => line = String.ofList text

theorem Spelled.landmarks (h : Spelled lines texts) :
    Artifact.landmarks lines = texts.filterMap landmark? := by
  induction h with
  | nil => rfl
  | cons line _ ih =>
    rw [Artifact.landmarks, List.filterMap_cons, ← Artifact.landmarks, ih, line, String.toList_ofList,
      List.filterMap_cons]

theorem Spelled.oneLine (h : Spelled lines texts) (clean : ∀ text ∈ texts, '\n' ∉ text) :
    ∀ line ∈ lines, '\n' ∉ line.toList := by
  induction h with
  | nil => simp
  | cons line _ ih =>
    rw [List.forall_mem_cons] at clean ⊢
    refine ⟨?_, ih clean.2⟩
    rw [line, String.toList_ofList]
    exact clean.1

theorem landmarks_append (as bs : List String) :
    landmarks (as ++ bs) = landmarks as ++ landmarks bs := by
  simp [landmarks]

theorem landmarks_flatMap {α : Type} (block : α → List String) (xs : List α) :
    landmarks (xs.flatMap block) = xs.flatMap fun x => landmarks (block x) := by
  induction xs with
  | nil => rfl
  | cons x xs ih => rw [List.flatMap_cons, landmarks_append, ih, List.flatMap_cons]

theorem landmarks_directive (x : Socket) (lines : List String) :
    landmarks (x.directive :: lines) = .socket (some x.port.toNat) :: landmarks lines := by
  rw [landmarks, List.filterMap_cons, landmark?_directive]
  rfl

/-- A line with a name in it is no landmark, when it begins with another word. -/
theorem landmarks_named {opening name closing : String} {front : List Char}
    (spelled : opening = String.ofList front) (ended : behindFirstWord front ≠ [])
    (other : firstWord front ∉ ["listen".toList, "server".toList, "stream".toList]) :
    landmarks ((opening ++ name ++ closing) :: lines) = landmarks lines := by
  rw [landmarks, List.filterMap_cons, String.append_assoc, String.toList_append, spelled,
    String.toList_ofList, landmark?_other ended other]
  rfl

end

section

variable {s : Snapshot} {c : RenderContext}

theorem landmarks_header (s : Snapshot) (c : RenderContext) : landmarks (headerLines s c) = [] := by
  have checksum : behindFirstWord "# Configuration checksum: ".toList ≠ [] := by decide
  have generation : behindFirstWord "# Generation: ".toList ≠ [] := by decide
  simp only [landmarks, headerLines, String.toList_append, List.filterMap_cons,
    landmark?_other checksum (by decide), landmark?_other generation (by decide),
    List.filterMap_nil]

/-- The lines that open a server. -/
theorem landmarks_opening : landmarks ["", "    server \x7b"] = [.server] := by
  rw [Spelled.landmarks (by repeat' constructor)]
  decide

theorem landmarks_closing : landmarks ["    \x7d"] = [] := by
  rw [Spelled.landmarks (by repeat' constructor)]
  decide

theorem landmarks_closingBlock : landmarks ["\x7d"] = [] := by
  rw [Spelled.landmarks (by repeat' constructor)]
  decide

theorem landmarks_balancer : landmarks balancerLines = [] := by
  rw [balancerLines, Spelled.landmarks (by repeat' constructor)]
  decide

theorem landmarks_material (c : RenderContext) : landmarks (materialLines c) = [] := by
  have certificate : ∀ path : String, landmarks ["    ssl_certificate " ++ path ++ ";",
      "    ssl_certificate_key " ++ path ++ ";"] = [] := by
    intro path
    rw [landmarks_named rfl (by decide) (by decide), landmarks_named rfl (by decide) (by decide)]
    rfl
  have parameters : ∀ path : String, landmarks ["    ssl_dhparam " ++ path ++ ";"] = [] := by
    intro path
    rw [landmarks_named rfl (by decide) (by decide)]
    rfl
  unfold materialLines
  rw [landmarks_append]
  cases c.defaultCertificate <;> cases c.dhParam <;> simp only [certificate, parameters] <;> rfl

/-- The fixed servers, their directives apart. -/
theorem fixedServerLines_eq (listen : ListenPorts) : fixedServerLines listen = ["", "    server \x7b"] ++
    ["        listen " ++ portText listen.defaultHttp ++ " default_server;"] ++
    ["        server_name _;", "        location / \x7b return 404; \x7d", "    \x7d", "",
      "    server \x7b"] ++ ["        listen 127.0.0.1:" ++ portText listen.status ++ ";"] ++
    ["        location /healthz \x7b return 200; \x7d",
      "        location /configuration \x7b content_by_lua_block \x7b configuration.call() \x7d \x7d",
      "    \x7d"] := rfl

theorem landmarks_fixed (listen : ListenPorts) : landmarks (fixedServerLines listen) =
    [.server, .socket (some listen.defaultHttp.toNat),
      .server, .socket (some listen.status.toNat)] := by
  have default : landmark? ("        listen " ++ portText listen.defaultHttp ++
      " default_server;").toList = some (.socket (some listen.defaultHttp.toNat)) := by
    have line := landmark?_listen [] " default_server;".toList (by simp)
      (getLast?_port listen.defaultHttp.toNat) (Or.inr ⟨_, rfl⟩)
    unfold portText
    simpa only [String.toList_append, String.toList_ofList, List.nil_append, List.append_assoc]
      using line
  have status : landmark? ("        listen 127.0.0.1:" ++ portText listen.status ++ ";").toList =
      some (.socket (some listen.status.toNat)) := by
    let loopback := ['1', '2', '7', '.', '0', '.', '0', '.', '1']
    have host : "        listen 127.0.0.1:".toList =
        "        listen ".toList ++ loopback ++ [':'] := by decide
    have last : (splitAt ':' (loopback ++ [':'] ++ Decimal.ofNat listen.status.toNat)).getLast? =
        some (Decimal.ofNat listen.status.toNat) := by
      rw [List.append_assoc, List.singleton_append, splitAt_append, List.getLast?_append, getLast?_port,
        Option.some_or]
    have plain : ∀ c ∈ loopback ++ [':'], isBlank c = false ∧ c ≠ ';' := by
      simp [loopback, isBlank]
    have line := landmark?_listen _ ";".toList plain last (Or.inl rfl)
    unfold portText
    simpa only [String.toList_append, String.toList_ofList, host, List.append_assoc] using line
  have between : landmarks ["        server_name _;", "        location / \x7b return 404; \x7d",
      "    \x7d", "", "    server \x7b"] = [.server] := by
    rw [Spelled.landmarks (by repeat' constructor)]
    decide
  have last : landmarks ["        location /healthz \x7b return 200; \x7d",
      "        location /configuration \x7b content_by_lua_block \x7b configuration.call() \x7d \x7d",
      "    \x7d"] = [] := by
    rw [Spelled.landmarks (by repeat' constructor)]
    decide
  have one : ∀ {line : String} {mark : Landmark}, landmark? line.toList = some mark →
      landmarks [line] = [mark] := by
    intro line mark h
    rw [landmarks, List.filterMap_cons, h]
    rfl
  rw [fixedServerLines_eq, landmarks_append, landmarks_append, landmarks_append, landmarks_append,
    landmarks_opening, between, last, one default, one status]
  rfl

theorem landmarks_location (l : Location) : landmarks (locationLines l) = [] := by
  have rest : landmarks ["            proxy_pass http://upstream_balancer;", "        \x7d"] = [] := by
    rw [Spelled.landmarks (by repeat' constructor)]
    decide
  rw [locationLines, landmarks_named rfl (by decide) (by decide), landmarks_named rfl (by decide) (by decide),
    rest]

theorem landmarks_server (s : Server) :
    landmarks (serverLines s) = [.server, .socket (some s.port.toNat)] := by
  have name : landmarks ["        server_name " ++ s.hostname ++ ";"] = [] := by
    rw [landmarks_named rfl (by decide) (by decide)]
    rfl
  have socket : landmarks (listenLines s) = [.socket (some s.port.toNat)] := by
    obtain ⟨more, lines, behind⟩ := listenLines_eq s
    have none : landmarks more = [] := by
      rw [behind]
      split
      · rw [Spelled.landmarks (by repeat' constructor)]
        decide
      · rfl
    rw [lines, landmarks_directive, none]
  have locations : landmarks (s.locations.flatMap locationLines) = [] := by
    rw [landmarks_flatMap]
    simp [landmarks_location]
  have parts : serverLines s = ["", "    server \x7b"] ++ ["        server_name " ++ s.hostname ++ ";"] ++
      listenLines s ++ s.locations.flatMap locationLines ++ ["    \x7d"] := rfl
  rw [parts, landmarks_append, landmarks_append, landmarks_append, landmarks_append,
    landmarks_opening, name, socket, locations, landmarks_closing]
  rfl

theorem landmarks_service (udp : Bool) (s : Service) :
    landmarks (serviceLines udp s) = [.server, .socket (some s.port.toNat)] := by
  have proxy : landmarks (if s.proxyProtocol then ["        proxy_protocol on;"] else []) = [] := by
    split
    · rw [Spelled.landmarks (by repeat' constructor)]
      decide
    · rfl
  have backend : landmarks ["        set $proxy_upstream_name \"" ++ s.backend ++ "\";",
      "        proxy_pass upstream_balancer;", "    \x7d"] = [] := by
    rw [landmarks_named rfl (by decide) (by decide), Spelled.landmarks (by repeat' constructor)]
    decide
  have parts : serviceLines udp s = ["", "    server \x7b"] ++
      [Socket.directive ⟨s.port, if udp then .udp else .plain⟩] ++
      (if s.proxyProtocol then ["        proxy_protocol on;"] else []) ++
      ["        set $proxy_upstream_name \"" ++ s.backend ++ "\";",
        "        proxy_pass upstream_balancer;", "    \x7d"] := by
    cases udp <;> rfl
  rw [parts, landmarks_append, landmarks_append, landmarks_append, landmarks_directive,
    landmarks_opening, proxy, backend]
  rfl

/-- The landmarks of the servers or services on some ports. -/
def opened (ports : List UInt16) : List Landmark :=
  ports.flatMap fun port => [.server, .socket (some port.toNat)]

theorem landmarks_stream (tcp udp : List Service) : landmarks (streamLines tcp udp) =
    (if tcp = [] ∧ udp = [] then [] else [.stream]) ++
      opened (tcp.map (·.port) ++ udp.map (·.port)) := by
  unfold streamLines
  split
  · rename_i none
    obtain ⟨rfl, rfl⟩ : tcp = [] ∧ udp = [] := by simpa using none
    rfl
  · rename_i some
    have some : ¬(tcp = [] ∧ udp = []) := by simpa using some
    have opening : landmarks ["", "stream \x7b", "    upstream upstream_balancer \x7b",
        "        server 0.0.0.1:1234;",
        "        balancer_by_lua_block \x7b tcp_udp_balancer.balance() \x7d", "    \x7d"] =
        [.stream] := by
      rw [Spelled.landmarks (by repeat' constructor)]
      decide
    rw [landmarks_append, landmarks_append, landmarks_append, opening, landmarks_closingBlock,
      landmarks_flatMap, landmarks_flatMap, if_neg some, opened, List.flatMap_append,
      List.flatMap_map, List.flatMap_map]
    simp only [landmarks_service, List.append_assoc, List.append_nil]

/-- **The outline of an artifact**: two servers that it always has, then those of the snapshot, and
behind a landmark of their own the services below HTTP, each with its socket. -/
theorem landmarks_lines (s : Snapshot) (c : RenderContext) : landmarks (lines s c) =
    opened [c.listen.defaultHttp, c.listen.status] ++ opened (s.servers.map (·.port)) ++
      (if s.tcpServices = [] ∧ s.udpServices = [] then [] else [.stream]) ++
      opened (s.tcpServices.map (·.port) ++ s.udpServices.map (·.port)) := by
  have servers : landmarks (s.servers.flatMap serverLines) = opened (s.servers.map (·.port)) := by
    rw [landmarks_flatMap, opened, List.flatMap_map]
    simp only [landmarks_server]
  unfold lines bodyLines
  simp only [landmarks_append, landmarks_header, landmarks_balancer, landmarks_material,
    landmarks_fixed, servers, landmarks_closingBlock, landmarks_stream, List.nil_append, List.append_assoc]
  rfl

/-! ## The lines of the text -/

/-- No name and no path that an artifact shows holds a line feed. -/
structure OneLine (s : Snapshot) (c : RenderContext) : Prop where
  servers : ∀ x ∈ s.servers, x.OneLine
  services : ∀ x ∈ s.tcpServices ++ s.udpServices, '\n' ∉ x.backend.toList
  certificate : ∀ path ∈ c.defaultCertificate, '\n' ∉ path.toList
  dhParam : ∀ path ∈ c.dhParam, '\n' ∉ path.toList

/-- The lines of a text, the last one being what stands behind its last line feed. -/
def textLines (text : String) : List (List Char) := splitAt '\n' text.toList

theorem textLines_ofLines : ∀ {lines : List String}, (∀ line ∈ lines, '\n' ∉ line.toList) →
    textLines (ofLines lines) = lines.map String.toList ++ [[]] := by
  intro lines
  induction lines with
  | nil => exact fun _ => rfl
  | cons line lines ih =>
    intro oneLine
    have first := oneLine line (by simp)
    rw [textLines, toList_ofLines_cons, splitAt_append, splitAt_of_notMem first, ← textLines,
      ih fun l hl => oneLine l (by simp [hl])]
    rfl

theorem serviceLines_oneLine {udp : Bool} {x : Service} (h : '\n' ∉ x.backend.toList) :
    ∀ line ∈ serviceLines udp x, '\n' ∉ line.toList := by
  intro line hline
  have port := portText_oneLine x.port
  simp only [serviceLines, List.mem_append, List.mem_cons, List.not_mem_nil, or_false] at hline
  rcases hline with ((rfl | rfl | rfl) | proxy) | rfl | rfl | rfl
  · simp
  · simp
  · cases udp <;> simpa [String.toList_append] using port
  · split at proxy
    · rw [List.mem_singleton.mp proxy]
      simp
    · cases proxy
  · simpa [String.toList_append] using h
  · simp
  · simp

theorem materialLines_oneLine (h : OneLine s c) :
    ∀ line ∈ materialLines c, '\n' ∉ line.toList := by
  have named : ∀ opening path : String, '\n' ∉ opening.toList → '\n' ∉ path.toList →
      '\n' ∉ (opening ++ path ++ ";").toList := by
    intro opening path hopening hpath
    simp [String.toList_append, hopening, hpath]
  intro line hline
  rcases List.mem_append.mp hline with certificate | parameters
  · cases path : c.defaultCertificate with
    | none => simp [path] at certificate
    | some path' =>
      have clean := h.certificate path' path
      simp only [path, List.mem_cons, List.not_mem_nil, or_false] at certificate
      rcases certificate with rfl | rfl
      · exact named _ _ (by simp) clean
      · exact named _ _ (by simp) clean
  · cases path : c.dhParam with
    | none => simp [path] at parameters
    | some path' =>
      simp only [path, List.mem_singleton] at parameters
      exact parameters ▸ named _ _ (by simp) (h.dhParam path' path)

theorem fixedServerLines_oneLine (listen : ListenPorts) :
    ∀ line ∈ fixedServerLines listen, '\n' ∉ line.toList := by
  intro line hline
  have http := portText_oneLine listen.defaultHttp
  have status := portText_oneLine listen.status
  rw [fixedServerLines_eq] at hline
  simp only [List.mem_append] at hline
  rcases hline with (((opening | listens) | between) | listens) | rest
  · exact Spelled.oneLine (by repeat' constructor) (by decide) line opening
  · rw [List.mem_singleton.mp listens]
    simpa [String.toList_append] using http
  · exact Spelled.oneLine (by repeat' constructor) (by decide) line between
  · rw [List.mem_singleton.mp listens]
    simpa [String.toList_append] using status
  · exact Spelled.oneLine (by repeat' constructor) (by decide) line rest

theorem streamLines_oneLine {tcp udp : List Service} (h : ∀ x ∈ tcp ++ udp, '\n' ∉ x.backend.toList) :
    ∀ line ∈ streamLines tcp udp, '\n' ∉ line.toList := by
  intro line hline
  unfold streamLines at hline
  split at hline
  · cases hline
  · simp only [List.mem_append, List.mem_flatMap] at hline
    rcases hline with ((opening | ⟨x, hx, block⟩) | ⟨x, hx, block⟩) | close
    · exact Spelled.oneLine (by repeat' constructor) (by decide) line opening
    · exact serviceLines_oneLine (h x (List.mem_append_left _ hx)) line block
    · exact serviceLines_oneLine (h x (List.mem_append_right _ hx)) line block
    · rw [List.mem_singleton.mp close]
      simp

/-- No line of an artifact holds a line feed when none of the names does. -/
theorem lines_oneLine (h : OneLine s c) : ∀ line ∈ lines s c, '\n' ∉ line.toList := by
  intro line hline
  simp only [lines, bodyLines, List.mem_append, List.mem_flatMap, List.mem_singleton] at hline
  rcases hline with header | ((((balancer | material) | fixed) | ⟨x, hx, block⟩) | rfl) | stream
  · exact headerLines_oneLine s c line header
  · exact Spelled.oneLine (by unfold balancerLines; repeat' constructor) (by decide) line balancer
  · exact materialLines_oneLine h line material
  · exact fixedServerLines_oneLine c.listen line fixed
  · exact serverLines_oneLine (h.servers x hx) line block
  · simp
  · exact streamLines_oneLine h.services line stream

/-- The outline of the text of an artifact is that of its lines. -/
theorem filterMap_textLines {artifact : String} (h : render s c = .ok artifact) (clean : OneLine s c) :
    (textLines artifact).filterMap landmark? = landmarks (lines s c) := by
  have last : landmark? [] = none := by decide
  rw [eq_of_render h, textLines_ofLines (lines_oneLine clean), List.filterMap_append, List.filterMap_map,
    List.filterMap_cons, last]
  simp [landmarks]

/-! ## What the outline says -/

theorem port?_opened (ports : List UInt16) :
    (opened ports).filterMap Landmark.port? = ports.map fun port => some port.toNat := by
  induction ports with
  | nil => rfl
  | cons port ports ih =>
    rw [opened, List.flatMap_cons, List.filterMap_append, ← opened, ih]
    rfl

theorem count_opened (ports : List UInt16) : (opened ports).count .server = ports.length := by
  induction ports with
  | nil => rfl
  | cons port ports ih =>
    rw [opened, List.flatMap_cons, List.count_append, ← opened, ih, List.length_cons, Nat.add_comm]
    rfl

theorem stream_notMem_opened (ports : List UInt16) : Landmark.stream ∉ opened ports := by
  simp [opened]

/-- **The artifact listens on the ports of the configuration**, and on those of its two own servers: the
ports of the lines whose first word is `listen` are these and no others. It has as many servers as the
snapshot has servers and services, and its own two, and a block for the services below HTTP just when
there are any. -/
theorem artifact_outline {artifact : String} (h : render s c = .ok artifact) (clean : OneLine s c) :
    (∀ port : Option Nat, port ∈ ((textLines artifact).filter IsListen).map listenPort? ↔
        ∃ p : UInt16, port = some p.toNat ∧ (p ∈ s.structural.listenerPorts ∨
          p = c.listen.defaultHttp ∨ p = c.listen.status)) ∧
      (textLines artifact).countP IsServer =
        2 + s.servers.length + s.tcpServices.length + s.udpServices.length ∧
      ("stream \x7b".toList ∈ textLines artifact ↔ s.tcpServices ≠ [] ∨ s.udpServices ≠ []) := by
  -- the line between the servers and the services counts for the last part only
  have silent : (if s.tcpServices = [] ∧ s.udpServices = [] then ([] : List Landmark)
      else [.stream]).filterMap Landmark.port? = [] := by
    split <;> rfl
  have noServer : (if s.tcpServices = [] ∧ s.udpServices = [] then ([] : List Landmark)
      else [.stream]).count .server = 0 := by
    split <;> rfl
  have stream : Landmark.stream ∈ (if s.tcpServices = [] ∧ s.udpServices = []
      then ([] : List Landmark) else [.stream]) ↔ s.tcpServices ≠ [] ∨ s.udpServices ≠ [] := by
    split
    · rename_i none
      simp [none]
    · rename_i some
      simpa using Classical.not_and_iff_not_or_not.mp some
  have ports : ∀ p : UInt16, p ∈ s.structural.listenerPorts ↔ p ∈ s.servers.map (·.port) ∨
      p ∈ s.tcpServices.map (·.port) ++ s.udpServices.map (·.port) := by
    intro p
    rw [Configuration.listenerPorts, mem_sortedSet, List.append_assoc, List.mem_append]
    rfl
  refine ⟨fun port => ?_, ?_, ?_⟩
  · rw [← port?_filterMap, filterMap_textLines h clean, landmarks_lines]
    simp only [List.filterMap_append, port?_opened, silent, List.append_nil, List.mem_append,
      List.mem_map, ports, List.mem_cons, List.not_mem_nil, or_false]
    constructor
    · rintro ((⟨p, own, rfl⟩ | ⟨p, server, rfl⟩) | ⟨p, service, rfl⟩)
      · exact ⟨p, rfl, Or.inr own⟩
      · exact ⟨p, rfl, Or.inl (Or.inl server)⟩
      · exact ⟨p, rfl, Or.inl (Or.inr service)⟩
    · rintro ⟨p, rfl, (server | service) | own⟩
      · exact Or.inl (Or.inr ⟨p, server, rfl⟩)
      · exact Or.inr ⟨p, service, rfl⟩
      · exact Or.inl (Or.inl ⟨p, own, rfl⟩)
  · rw [← count_server, filterMap_textLines h clean, landmarks_lines, List.count_append,
      List.count_append, List.count_append, count_opened, count_opened, count_opened, noServer]
    simp
    omega
  · rw [← mem_stream, filterMap_textLines h clean, landmarks_lines]
    simp only [List.mem_append, stream_notMem_opened, stream, false_or, or_false]

/-- Servers and services of each kind, one location with a directive in its path. -/
def layered : Snapshot where
  generation := 1
  backends := [{ name := "web" }]
  servers := [
    { hostname := "a.example", port := 443, tls := some { pem := "A" },
      locations := [{ path := "/ listen 99;", backend := "web" }] },
    { hostname := "b.example", port := 8080 }]
  tcpServices := [{ port := 5432, backend := "db", proxyProtocol := true }]
  udpServices := [{ port := 53, backend := "dns" }]

/-- What `layered` is rendered with. -/
def layeredContext : RenderContext where
  fingerprint := ⟨7⟩
  defaultCertificate := some "/etc/tls/default.pem"

theorem layered_outline : ∃ artifact, render layered layeredContext = .ok artifact ∧
    OneLine layered layeredContext ∧
    some 5432 ∈ ((textLines artifact).filter IsListen).map listenPort? ∧
    some 99 ∉ ((textLines artifact).filter IsListen).map listenPort? ∧
    (textLines artifact).countP IsServer = 6 ∧ "stream \x7b".toList ∈ textLines artifact := by
  have coherent : incoherence? layered = none := by decide
  have rendered : render layered layeredContext = .ok (ofLines (lines layered layeredContext)) := by
    rw [render, coherent]
  have clean : OneLine layered layeredContext :=
    ⟨by decide, by decide, by decide, by decide⟩
  obtain ⟨ports, servers, stream⟩ := artifact_outline rendered clean
  refine ⟨_, rendered, clean, ?_, ?_, servers, stream.mpr (Or.inl (by decide))⟩
  · exact (ports (some 5432)).mpr ⟨5432, rfl, Or.inl (by decide)⟩
  · intro fake
    obtain ⟨p, port, open'⟩ := (ports (some 99)).mp fake
    have same : p = 99 := by
      rw [← UInt16.toNat_inj]
      exact (Option.some.inj port).symm
    subst same
    revert open'
    decide

end

end Artifact

end IngressControl
