import IngressControl.Proofs.ListenSockets

/-!
# What the text of an artifact tells

An artifact shows of each server its hostname, its port, whether it has a certificate, and its route
table. It shows nothing else of it: which certificate it is, the proxy has to learn from the control
surface.

What it shows can be read back. The lines of a server begin and end in their own way, so the lines of
a list of servers tell the servers apart (`views_of_serverLines`), and the text tells the lines as long
as no name holds a line feed (`ofLines_injective`).
-/

namespace IngressControl

/-- What an artifact shows of a server. -/
structure ServerView where
  hostname : String
  port : UInt16
  /-- The server has a certificate, whichever it is. -/
  secured : Bool
  locations : List Location
deriving DecidableEq

/-- What an artifact shows of a server. -/
def Server.view (s : Server) : ServerView := ⟨s.hostname, s.port, s.tls.isSome, s.locations⟩

/-- No name that an artifact shows of a server holds a line feed. -/
def Server.OneLine (s : Server) : Prop :=
  '\n' ∉ s.hostname.toList ∧ ∀ l ∈ s.locations, '\n' ∉ l.path.toList ∧ '\n' ∉ l.backend.toList

instance (s : Server) : Decidable s.OneLine := inferInstanceAs (Decidable (_ ∧ _))

namespace Artifact

/-! ## Lines of servers -/

theorem wrapped_injective {opening close a b : String}
    (h : opening ++ a ++ close = opening ++ b ++ close) : a = b :=
  (String.append_right_inj opening).mp ((String.append_left_inj close).mp h)

theorem listenLines_eq (s : Server) : ∃ more, listenLines s =
    Socket.directive ⟨s.port, if s.tls.isSome then .tls else .plain⟩ :: more ∧
      more = if s.tls.isSome
        then ["        ssl_certificate_by_lua_block \x7b certificate.call() \x7d"] else [] := by
  unfold listenLines
  cases s.tls.isSome <;> exact ⟨_, rfl, rfl⟩

/-- The lines that open a port tell the port and whether there is a certificate. -/
theorem listenLines_told {x y : Server} {rest rest' : List String}
    (h : listenLines x ++ rest = listenLines y ++ rest') :
    x.port = y.port ∧ x.tls.isSome = y.tls.isSome ∧ rest = rest' := by
  obtain ⟨moreX, hx, restX⟩ := listenLines_eq x
  obtain ⟨moreY, hy, restY⟩ := listenLines_eq y
  rw [hx, hy, List.cons_append, List.cons_append] at h
  obtain ⟨directives, behind⟩ := List.cons.inj h
  obtain ⟨port, kind⟩ := Socket.mk.inj (Socket.directive_injective directives)
  have secured : x.tls.isSome = y.tls.isSome := by
    cases hx : x.tls.isSome <;> cases hy : y.tls.isSome <;> simp_all
  rw [restX, restY, secured] at behind
  exact ⟨port, secured, List.append_cancel_left behind⟩

/-- No entry of a route table looks like the end of a server. -/
theorem location_ne_close (path : String) : "        location " ++ path ++ " \x7b" ≠ "    \x7d" := by
  intro same
  have chars := congrArg String.toList same
  simp [String.toList_append] at chars

/-- The lines of a route table, up to the end of its server, tell the route table. -/
theorem locationLines_told : ∀ {xs ys : List Location} {rest rest' : List String},
    xs.flatMap locationLines ++ "    \x7d" :: rest = ys.flatMap locationLines ++ "    \x7d" :: rest' →
      xs = ys ∧ rest = rest' := by
  -- the first line of an entry tells it from the end of the server
  intro xs
  induction xs with
  | nil =>
    intro ys rest rest' h
    cases ys with
    | nil => exact ⟨rfl, (List.cons.inj h).2⟩
    | cons y ys => exact absurd (List.cons.inj h).1.symm (location_ne_close y.path)
  | cons x xs ih =>
    intro ys rest rest' h
    cases ys with
    | nil => exact absurd (List.cons.inj h).1 (location_ne_close x.path)
    | cons y ys =>
      obtain ⟨first, h⟩ := List.cons.inj h
      obtain ⟨second, h⟩ := List.cons.inj h
      obtain ⟨tails, same⟩ := ih (List.cons.inj (List.cons.inj h).2).2
      have path : x.path = y.path := wrapped_injective first
      have backend : x.backend = y.backend := wrapped_injective second
      obtain ⟨xPath, xBackend⟩ := x
      obtain ⟨yPath, yBackend⟩ := y
      rw [show xPath = yPath from path, show xBackend = yBackend from backend, tails]
      exact ⟨rfl, same⟩

/-- The lines of a server tell what an artifact shows of it, and where the next server begins. -/
theorem serverLines_told {x y : Server} {rest rest' : List String}
    (h : serverLines x ++ rest = serverLines y ++ rest') : x.view = y.view ∧ rest = rest' := by
  have parts : ∀ (s : Server) (more : List String), serverLines s ++ more =
      "" :: "    server \x7b" :: ("        server_name " ++ s.hostname ++ ";") ::
        (listenLines s ++ (s.locations.flatMap locationLines ++ "    \x7d" :: more)) := by
    intro s more
    simp [serverLines]
  rw [parts, parts] at h
  -- from here on each part is taken off the front of what is left
  obtain ⟨name, h⟩ := List.cons.inj (List.cons.inj (List.cons.inj h).2).2
  obtain ⟨port, secured, h⟩ := listenLines_told h
  obtain ⟨locations, same⟩ := locationLines_told h
  exact ⟨by rw [Server.view, Server.view, wrapped_injective name, port, secured, locations], same⟩

/-- **The lines of servers tell what an artifact shows of them.** -/
theorem views_of_serverLines : ∀ {xs ys : List Server},
    xs.flatMap serverLines = ys.flatMap serverLines → xs.map Server.view = ys.map Server.view := by
  intro xs
  induction xs with
  | nil =>
    intro ys h
    cases ys with
    | nil => rfl
    | cons y ys => simp [serverLines] at h
  | cons x xs ih =>
    intro ys h
    cases ys with
    | nil => simp [serverLines] at h
    | cons y ys =>
      rw [List.flatMap_cons, List.flatMap_cons] at h
      obtain ⟨first, rest⟩ := serverLines_told h
      rw [List.map_cons, List.map_cons, first, ih rest]

theorem serverLines_congr {x y : Server} (h : x.view = y.view) : serverLines x = serverLines y := by
  obtain ⟨hostname, port, secured, locations⟩ := ServerView.mk.inj h
  rw [serverLines, serverLines, listenLines, listenLines, hostname, port, secured, locations]

theorem serverLines_of_views : ∀ {xs ys : List Server},
    xs.map Server.view = ys.map Server.view → xs.flatMap serverLines = ys.flatMap serverLines := by
  intro xs
  induction xs with
  | nil =>
    intro ys h
    rw [List.map_nil, eq_comm, List.map_eq_nil_iff] at h
    rw [h]
  | cons x xs ih =>
    intro ys h
    cases ys with
    | nil => simp at h
    | cons y ys =>
      obtain ⟨first, rest⟩ := List.cons.inj h
      rw [List.flatMap_cons, List.flatMap_cons, serverLines_congr first, ih rest]

/-! ## Text of lines -/

theorem toList_ofLines_cons (line : String) (lines : List String) :
    (ofLines (line :: lines)).toList = line.toList ++ '\n' :: (ofLines lines).toList := by
  simp [ofLines, String.toList_ofList]

theorem toList_ofLines_append (as bs : List String) :
    (ofLines (as ++ bs)).toList = (ofLines as).toList ++ (ofLines bs).toList := by
  simp [ofLines, String.toList_ofList]

/-- A line without a line feed is told by the text that begins with it. -/
theorem line_told {a b rest rest' : List Char} (ha : '\n' ∉ a) (hb : '\n' ∉ b)
    (h : a ++ '\n' :: rest = b ++ '\n' :: rest') : a = b ∧ rest = rest' := by
  -- the line is all that comes before the first line feed
  have front : ∀ (line more : List Char), '\n' ∉ line →
      (line ++ '\n' :: more).takeWhile (· ≠ '\n') = line := by
    intro line more none
    rw [List.takeWhile_append_of_pos (fun c hc => by simpa using fun e : c = '\n' => none (e ▸ hc))]
    simp
  have same : a = b := by
    rw [← front a rest ha, h, front b rest' hb]
  rw [same] at h
  exact ⟨same, (List.cons.inj (List.append_cancel_left h)).2⟩

/-- **The text of lines tells the lines**, when none of them holds a line feed. -/
theorem ofLines_injective : ∀ {as bs : List String}, (∀ line ∈ as, '\n' ∉ line.toList) →
    (∀ line ∈ bs, '\n' ∉ line.toList) → ofLines as = ofLines bs → as = bs := by
  intro as
  induction as with
  | nil =>
    intro bs _ _ h
    cases bs with
    | nil => rfl
    | cons b bs =>
      have chars := congrArg String.toList h
      rw [toList_ofLines_cons] at chars
      simp [ofLines] at chars
  | cons a as ih =>
    intro bs ha hb h
    cases bs with
    | nil =>
      have chars := congrArg String.toList h
      rw [toList_ofLines_cons] at chars
      simp [ofLines] at chars
    | cons b bs =>
      have chars := congrArg String.toList h
      rw [toList_ofLines_cons, toList_ofLines_cons] at chars
      obtain ⟨first, rest⟩ := line_told (ha a (by simp)) (hb b (by simp)) chars
      rw [String.toList_inj.mp first,
        ih (fun l hl => ha l (by simp [hl])) (fun l hl => hb l (by simp [hl]))
          (String.toList_inj.mp rest)]

theorem portText_oneLine (port : UInt16) : '\n' ∉ (portText port).toList := by
  intro feed
  rw [portText, String.toList_ofList] at feed
  exact absurd (Decimal.isDigit_of_mem_ofNat feed) (by decide)

theorem serverLines_oneLine {s : Server} (h : s.OneLine) :
    ∀ line ∈ serverLines s, '\n' ∉ line.toList := by
  intro line hline
  have port := portText_oneLine s.port
  simp only [serverLines, List.mem_append, List.mem_flatMap] at hline
  rcases hline with ((fixed | opens) | ⟨l, hl, entry⟩) | close
  · simp only [List.mem_cons, List.not_mem_nil, or_false] at fixed
    rcases fixed with rfl | rfl | rfl
    · simp
    · simp
    · simpa [String.toList_append] using h.1
  · unfold listenLines at opens
    split at opens
    · simp only [List.mem_cons, List.not_mem_nil, or_false] at opens
      rcases opens with rfl | rfl
      · simpa [String.toList_append] using port
      · simp
    · rw [List.mem_singleton.mp opens]
      simpa [String.toList_append] using port
  · obtain ⟨path, backend⟩ := h.2 l hl
    simp only [locationLines, List.mem_cons, List.not_mem_nil, or_false] at entry
    rcases entry with rfl | rfl | rfl | rfl
    · simpa [String.toList_append] using path
    · simpa [String.toList_append] using backend
    · simp
    · simp
  · rw [List.mem_singleton.mp close]
    simp

/-! ## The text behind the header -/

/-- The text behind so many lines. -/
def behindLines : Nat → List Char → List Char
  | 0, text => text
  | n + 1, text => behindLines n (text.dropWhile (· ≠ '\n')).tail

/-- The text of an artifact behind its header. -/
def body (artifact : String) : List Char := behindLines 2 artifact.toList

theorem behindLines_ofLines : ∀ (as bs : List String), (∀ line ∈ as, '\n' ∉ line.toList) →
    behindLines as.length (ofLines (as ++ bs)).toList = (ofLines bs).toList := by
  intro as bs
  induction as with
  | nil => exact fun _ => rfl
  | cons a as ih =>
    intro oneLine
    have none := oneLine a (by simp)
    rw [List.length_cons, behindLines, List.cons_append, toList_ofLines_cons,
      List.dropWhile_append_of_pos
        (fun c hc => by simpa using fun e : c = '\n' => none (e ▸ hc))]
    simpa using ih fun l hl => oneLine l (by simp [hl])

theorem headerLines_oneLine (s : Snapshot) (c : RenderContext) :
    ∀ line ∈ headerLines s c, '\n' ∉ line.toList := by
  have digits : ∀ n, '\n' ∉ Decimal.ofNat n := by
    intro n feed
    exact absurd (Decimal.isDigit_of_mem_ofNat feed) (by decide)
  intro line hline
  simp only [headerLines, List.mem_cons, List.not_mem_nil, or_false] at hline
  rcases hline with rfl | rfl
  · simpa [String.toList_append, Fingerprint.text] using digits _
  · unfold Decimal.ofInt
    split <;> simpa [String.toList_append] using digits _

section

variable {s : Snapshot} {c : RenderContext} {artifact : String}

theorem eq_of_render (h : render s c = .ok artifact) : artifact = ofLines (lines s c) := by
  unfold render at h
  split at h
  · simp at h
  · exact (Except.ok.inj h).symm

/-- The body of an artifact is the text of the lines behind its header. -/
theorem body_of_render (h : render s c = .ok artifact) :
    body artifact = (ofLines (bodyLines s c)).toList := by
  rw [eq_of_render h]
  exact behindLines_ofLines (headerLines s c) (bodyLines s c) (headerLines_oneLine s c)

end

end Artifact

end IngressControl
