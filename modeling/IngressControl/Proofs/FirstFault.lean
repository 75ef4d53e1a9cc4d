import IngressControl.Proofs.Coherence

/-!
# Which fault a refused snapshot is refused for

A snapshot that is not coherent has no artifact, and the renderer says why. It names one server: the
first one at fault, in the order of the snapshot, so that the servers in front of it are coherent among
themselves. Of that server it tells the first of three things: its hostname is blank, or its place is
taken by a server in front of it, or one of its locations leads nowhere, and then which one is the first
to do so (`Server.AtFault`).

So whether there is an artifact, and if not, what the error is, follows from the snapshot alone; the
context of the rendering plays no part in it (`render_decides`).
-/

namespace IngressControl

/-- What a server is refused for, given the declared backends and the servers in front of it. -/
inductive Server.AtFault (backends : List Backend) (before : List Server) (v : Server) :
    RenderError → Prop where
  | unnamed (blank : ∀ x ∈ v.hostname.toList, isBlank x = true) :
      AtFault backends before v (.emptyHostname v.port)
  | doubled {w : Server} (named : ∃ x ∈ v.hostname.toList, isBlank x = false) (earlier : w ∈ before)
      (hostname : w.hostname = v.hostname) (port : w.port = v.port) :
      AtFault backends before v (.duplicateServer v.hostname v.port)
  | astray {l : Location} {sound rest : List Location}
      (named : ∃ x ∈ v.hostname.toList, isBlank x = false)
      (apart : ∀ w ∈ before, w.hostname = v.hostname → w.port ≠ v.port)
      (split : v.locations = sound ++ l :: rest)
      (declared : ∀ m ∈ sound, ∃ b ∈ backends, b.name = m.backend)
      (unknown : ∀ b ∈ backends, b.name ≠ l.backend) :
      AtFault backends before v (.unknownBackend v.hostname l.path l.backend)

/-- The first server at fault is refused for this; those in front of it are coherent. -/
def Snapshot.FirstFault (s : Snapshot) (e : RenderError) : Prop :=
  ∃ before v after, s.servers = before ++ v :: after ∧
    Snapshot.Coherent { s with servers := before } ∧ v.AtFault s.backends before e

namespace Artifact

variable {backends : List Backend} {names : List String} {before : List Server}
  {earlier : List (String × UInt16)} {v : Server} {e : RenderError}

/-- A server stands in the place of one in front of it. -/
theorem place_taken_iff : (v.hostname, v.port) ∈ before.map (fun w => (w.hostname, w.port)) ↔
    ∃ w ∈ before, w.hostname = v.hostname ∧ w.port = v.port := by
  simp only [List.mem_map, Prod.mk.injEq]

theorem declared_iff {l : Location} :
    l.backend ∈ backends.map (·.name) ↔ ∃ b ∈ backends, b.name = l.backend :=
  List.mem_map

/-- The check of one server finds what the server is refused for. -/
theorem fault?_eq_some_iff (places : ∀ x, x ∈ earlier ↔ x ∈ before.map fun w => (w.hostname, w.port)) :
    fault? (backends.map (·.name)) earlier v = some e ↔ v.AtFault backends before e := by
  rw [fault?]
  split
  · rename_i blank
    have all : ∀ x ∈ v.hostname.toList, isBlank x = true := List.all_eq_true.mp blank
    constructor
    · rintro ⟨⟩
      exact .unnamed all
    · intro fault
      cases fault with
      | unnamed blank => rfl
      | doubled named earlier hostname port =>
        rw [← isBlankText_eq_false, blank] at named
        cases named
      | astray named apart split declared unknown =>
        rw [← isBlankText_eq_false, blank] at named
        cases named
  · rename_i notBlank
    have named := isBlankText_eq_false.mp (Bool.not_eq_true _ ▸ notBlank)
    split
    · rename_i taken
      obtain ⟨w, hw, hostname, port⟩ :=
        place_taken_iff.mp ((places _).mp (List.contains_iff_mem.mp taken))
      constructor
      · rintro ⟨⟩
        exact .doubled named hw hostname port
      · intro fault
        cases fault with
        | unnamed blank => exact absurd (List.all_eq_true.mpr blank) notBlank
        | doubled named earlier hostname port => rfl
        | astray named apart split declared unknown => exact absurd port (apart w hw hostname)
    · rename_i free
      have apart : ∀ w ∈ before, w.hostname = v.hostname → w.port ≠ v.port := by
        intro w hw hostname port
        exact free (List.contains_iff_mem.mpr ((places _).mpr
          (place_taken_iff.mpr ⟨w, hw, hostname, port⟩)))
      rw [Option.map_eq_some_iff]
      constructor
      · rintro ⟨l, found, rfl⟩
        obtain ⟨unknown, sound, rest, split, declared⟩ := List.find?_eq_some_iff_append.mp found
        refine .astray named apart split (fun m hm => declared_iff.mp ?_) fun b hb same => ?_
        · simpa using declared m hm
        · simp only [Bool.not_eq_true', List.contains_eq_mem, decide_eq_false_iff_not] at unknown
          exact unknown (declared_iff.mpr ⟨b, hb, same⟩)
      · intro fault
        cases fault with
        | unnamed blank => exact absurd (List.all_eq_true.mpr blank) notBlank
        | doubled named earlier hostname port => exact absurd port (apart _ earlier hostname)
        | @astray l sound rest named apart split declared unknown =>
          refine ⟨l, List.find?_eq_some_iff_append.mpr ⟨?_, sound, rest, split, fun m hm => ?_⟩, rfl⟩
          · simpa [declared_iff] using unknown
          · simpa [declared_iff] using declared m hm

/-- The check of a list stops at the first server with a fault, with all servers in front of it found
sound. -/
theorem firstFault?_eq_some_iff {servers : List Server} : firstFault? names earlier servers = some e ↔
    ∃ before v after, servers = before ++ v :: after ∧ firstFault? names earlier before = none ∧
      fault? names ((before.map fun w => (w.hostname, w.port)).reverse ++ earlier) v = some e := by
  induction servers generalizing earlier with
  | nil => simp [firstFault?]
  | cons w rest ih =>
    rw [firstFault?]
    cases fault : fault? names earlier w with
    | some found =>
      constructor
      · rintro ⟨⟩
        exact ⟨[], w, rest, rfl, rfl, fault⟩
      · rintro ⟨before, v, after, split, sound, refused⟩
        cases before with
        | nil =>
          obtain ⟨rfl, rfl⟩ := List.cons.inj split
          exact fault.symm.trans refused
        | cons x before =>
          obtain ⟨rfl, _⟩ := List.cons.inj split
          simp [firstFault?, fault] at sound
    | none =>
      dsimp only
      rw [ih]
      constructor
      · rintro ⟨before, v, after, rfl, sound, refused⟩
        exact ⟨w :: before, v, after, rfl, by rw [firstFault?, fault, sound], by simpa using refused⟩
      · rintro ⟨before, v, after, split, sound, refused⟩
        cases before with
        | nil =>
          obtain ⟨rfl, rfl⟩ := List.cons.inj split
          exact absurd (fault.symm.trans refused) (by simp)
        | cons x before =>
          obtain ⟨rfl, tails⟩ := List.cons.inj split
          rw [firstFault?, fault] at sound
          exact ⟨before, v, after, tails, sound, by simpa using refused⟩

/-- **The check of a snapshot finds its first fault.** -/
theorem incoherence?_eq_some_iff {s : Snapshot} : incoherence? s = some e ↔ s.FirstFault e := by
  rw [incoherence?, firstFault?_eq_some_iff, Snapshot.FirstFault]
  refine exists_congr fun before => exists_congr fun v => exists_congr fun after =>
    and_congr_right fun _ => and_congr ?_ (fault?_eq_some_iff fun x => by simp)
  exact incoherence?_eq_none_iff (s := { s with servers := before })

/-- **What becomes of a rendering.** There is an artifact just when the snapshot is coherent, and the
error tells its first fault when it is not. -/
theorem render_decides (s : Snapshot) (c : RenderContext) :
    ((∃ artifact, render s c = .ok artifact) ↔ s.Coherent) ∧
      ∀ e, render s c = .error e ↔ s.FirstFault e := by
  rw [← incoherence?_eq_none_iff]
  simp only [← incoherence?_eq_some_iff, render]
  cases incoherence? s <;> simp

end Artifact

end IngressControl
