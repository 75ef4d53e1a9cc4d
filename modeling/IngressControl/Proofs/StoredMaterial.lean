import IngressControl.MaterialStore
import IngressControl.Proofs.FileTree.LastWrite
import IngressControl.Proofs.FileTree.Untouched
import IngressControl.Snapshot
import Mathlib.Data.List.Nodup

/-!
# What the store makes of a file

The store leaves a file alone when what is in it hashes to the same content identity. So a piece of
material that was stored is on disk just when no two contents that matter share an identity, which
is assumed of SHA-256 here by name.

`Storing` tells all that can come of storing a piece. Certificates and Diffie-Hellman parameters are
stored alike, but for the names that they may have.
-/

namespace IngressControl

/-- One piece of material as it is stored: the path of its file and what belongs into it. -/
structure Piece where
  path : String
  content : Bytes
deriving DecidableEq

/-- What a list of pieces, the last one last, says about the file at a path. -/
def lastContent (ps : List Piece) (q : String) : Option Bytes :=
  (ps.reverse.find? (fun p => p.path = q)).map (·.content)

theorem lastContent_snoc (ps : List Piece) (p : Piece) (q : String) :
    lastContent (ps ++ [p]) q = if p.path = q then some p.content else lastContent ps q := by
  unfold lastContent
  rw [List.reverse_append, List.reverse_singleton, List.singleton_append, List.find?_cons]
  by_cases h : p.path = q
  · rw [if_pos h]; simp [h]
  · rw [if_neg h]; simp [h]

/-- What was stored last at a path was stored. -/
theorem mem_of_lastContent {ps : List Piece} {q : String} {c : Bytes}
    (h : lastContent ps q = some c) : ∃ p ∈ ps, p.path = q ∧ p.content = c := by
  obtain ⟨p, hp, rfl⟩ := Option.map_eq_some_iff.mp h
  exact ⟨p, List.mem_reverse.mp (List.mem_of_find?_eq_some hp), by
    simpa using List.find?_some hp, rfl⟩

/-- What was stored last at a path stays, when all that is stored behind it goes elsewhere. -/
theorem lastContent_elsewhere {ps qs : List Piece} {q : String} (h : ∀ p ∈ qs, p.path ≠ q) :
    lastContent (ps ++ qs) q = lastContent ps q := by
  have none : qs.reverse.find? (fun p => p.path = q) = none := by
    rw [List.find?_eq_none]
    exact fun p hp => by simpa using h p (List.mem_reverse.mp hp)
  rw [lastContent, List.reverse_append, List.find?_append, none]
  rfl

/-- The only piece at a path is the last one there. -/
theorem lastContent_only {ps qs : List Piece} {p : Piece} (hp : p ∈ qs)
    (only : ∀ r ∈ qs, r.path = p.path → r = p) :
    lastContent (ps ++ qs) p.path = some p.content := by
  have found : (qs.reverse.find? (fun r => r.path = p.path)).isSome := by
    rw [List.find?_isSome]
    exact ⟨p, List.mem_reverse.mpr hp, by simp⟩
  obtain ⟨r, hr⟩ := Option.isSome_iff_exists.mp found
  have same : r = p := only r (List.mem_reverse.mp (List.mem_of_find?_eq_some hr))
    (by simpa using List.find?_some hr)
  rw [lastContent, List.reverse_append, List.find?_append, hr, same]
  rfl

theorem lastContent_of_mem {ps : List Piece} {p : Piece} (h : p ∈ ps) :
    ∃ c, lastContent ps p.path = some c := by
  have found : (ps.reverse.find? (fun x => x.path = p.path)).isSome := by
    rw [List.find?_isSome]
    exact ⟨p, List.mem_reverse.mpr h, by simp⟩
  obtain ⟨x, hx⟩ := Option.isSome_iff_exists.mp found
  exact ⟨x.content, by rw [lastContent, hx]; rfl⟩

/-- No two of these contents share an identity. -/
def CollisionFree (contents : Bytes → Prop) : Prop :=
  ∀ a b, contents a → contents b → contentIdentity a = contentIdentity b → a = b

/-- It is enough to hash each content once. -/
theorem collisionFree_of_nodup {contents : Bytes → Prop} {all : List Bytes}
    (listed : ∀ b, contents b → b ∈ all) (nodup : (all.map contentIdentity).Nodup) :
    CollisionFree contents :=
  fun a b ha hb same => List.inj_on_of_nodup_map nodup (listed a ha) (listed b hb) same

namespace MaterialStore

/-- What reading the file at a path comes to. -/
def reading (t : FileTree) (faults : Faults) (path : String) : Except IoError Bytes :=
  match faults .readFile with
  | some e => .error e
  | none => t.read path

variable {t t' : FileTree} {faults : Faults} {path : String} {content : Bytes}
  {r : Except StoreError Stored}

theorem reading_eq_ok {found : Bytes} :
    reading t faults path = .ok found ↔ faults .readFile = none ∧ t.read path = .ok found := by
  unfold reading
  cases faults .readFile <;> simp

/-- How a piece of material is stored, by what its file was read to hold. -/
inductive Storing (t : FileTree) (faults : Faults) (path : String) (content : Bytes) :
    FileTree → Except StoreError Stored → Prop
  | kept {found : Bytes} (read : reading t faults path = .ok found)
      (same : contentIdentity found = contentIdentity content) :
      Storing t faults path content t (.ok ⟨path, false⟩)
  | written {place : Trail} {t' : FileTree}
      (outdated : reading t faults path = .error .notFound ∨ ∃ found,
        reading t faults path = .ok found ∧ contentIdentity found ≠ contentIdentity content)
      (placed : t.Placed path content place t') :
      Storing t faults path content t' (.ok ⟨path, true⟩)
  | failed {cause : IoError} {t' : FileTree} (grown : t.Grown path t') :
      Storing t faults path content t' (.error (.io path cause))

theorem needsWrite_eq : needsWrite t faults path content =
    match reading t faults path with
    | .ok found => .ok (contentIdentity found ≠ contentIdentity content)
    | .error .notFound => .ok true
    | .error e => .error e := by
  unfold needsWrite reading
  cases faults .readFile with
  | none => rfl
  | some e => cases e <;> rfl

theorem store_course (h : store t faults path content = (t', r)) :
    Storing t faults path content t' r := by
  unfold store at h
  split at h
  · cases h
    exact .failed (.refl _ _)
  · rename_i needs
    cases h
    rw [needsWrite_eq] at needs
    split at needs
    · rename_i found read
      exact .kept read (by simpa using needs)
    · simp at needs
    · simp at needs
  · rename_i needs
    rw [needsWrite_eq] at needs
    split at h
    · rename_i write
      cases h
      exact .failed (FileTree.writeAtomic_error_grown write)
    · rename_i write
      cases h
      obtain ⟨place, placed⟩ := FileTree.writeAtomic_ok_placed write
      refine .written ?_ placed
      split at needs
      · rename_i found read
        exact Or.inr ⟨found, read, by simpa using needs⟩
      · rename_i missing
        exact Or.inl missing
      · simp at needs

/-- A piece is in step: its file held the content already, or was replaced. -/
def Stores (t : FileTree) (p : Piece) (t' : FileTree) : Prop :=
  (t' = t ∧ ∃ found, t.read p.path = .ok found ∧
      contentIdentity found = contentIdentity p.content) ∨
    (t.Rewrites [p.path] t' ∧ (t.Straight p.path → t'.read p.path = .ok p.content))

/-- A piece that is not stored leaves every file as it was. -/
theorem store_error {e : StoreError} (h : store t faults path content = (t', .error e)) :
    t.Rewrites [] t' := by
  cases store_course h with
  | failed grown => exact grown.rewrites

theorem store_ok {stored : Stored} (h : store t faults path content = (t', .ok stored)) :
    Stores t ⟨path, content⟩ t' := by
  cases store_course h with
  | kept read same => exact Or.inl ⟨rfl, _, (reading_eq_ok.mp read).2, same⟩
  | written _ placed => exact Or.inr ⟨placed.rewrites, placed.read⟩

/-- Whether or not a piece is stored, its path is all that is touched. -/
theorem store_touches (h : store t faults path content = (t', r)) : t.Touches [path] t' := by
  cases store_course h with
  | kept => exact .refl _ _
  | written _ placed => exact .of_placed placed
  | failed grown => exact .of_grown grown

/-- Whether a certificate can be stored under a name. -/
def takesCertificate (name : String) : Bool := name = "" || isValidName name

theorem takesCertificate_eq (name : String) :
    takesCertificate name = isValidName (fileName name) := by
  rw [takesCertificate, fileName]
  split
  · rename_i unnamed
    have placeholder : isValidName placeholderName = true := by decide
    simp [unnamed, placeholder]
  · rename_i named
    simp [named]

/-- The kinds of material that are stored. -/
inductive MaterialKind where
  | certificate
  | dhParam
deriving DecidableEq

/-- The name that the file of a piece of material goes by. -/
def MaterialKind.fileName : MaterialKind → String → String
  | .certificate, name => MaterialStore.fileName name
  | .dhParam, name => name

/-- The path of the file for a piece of material. -/
def pathAs (s : MaterialStore) (kind : MaterialKind) (name : String) : String :=
  s.pathOf (kind.fileName name)

/-- Stores a piece of material of a kind. -/
def storeAs (s : MaterialStore) : MaterialKind → FileTree → Faults → String → Bytes →
    FileTree × Except StoreError Stored
  | .certificate => s.storeCertificate
  | .dhParam => s.storeDhParam

variable {s : MaterialStore} {kind : MaterialKind} {name : String}

/-- The name decides whether the file is looked at. -/
theorem storeAs_eq : s.storeAs kind t faults name content =
    if isValidName (kind.fileName name) then store t faults (s.pathAs kind name) content
    else (t, .error (.invalidName name)) := by
  cases kind with
  | certificate =>
    rw [storeAs, storeCertificate, MaterialKind.fileName, MaterialStore.fileName]
    by_cases unnamed : name = ""
    · have placeholder : isValidName placeholderName = true := by decide
      rw [if_neg (by simp [unnamed]), if_pos unnamed, if_pos placeholder, certificatePath,
        MaterialStore.fileName, if_pos unnamed, pathAs, MaterialKind.fileName,
        MaterialStore.fileName, if_pos unnamed]
    · rw [if_neg unnamed]
      cases valid : isValidName name
      · simp [unnamed]
      · simp [unnamed]
        rfl
  | dhParam =>
    rw [storeAs, storeDhParam, MaterialKind.fileName]
    cases isValidName name <;> rfl

/-- A piece whose name is refused is not looked at. -/
theorem storeAs_cases (h : s.storeAs kind t faults name content = (t', r)) :
    (isValidName (kind.fileName name) = false ∧ t' = t ∧ r = .error (.invalidName name)) ∨
      (isValidName (kind.fileName name) = true ∧
        store t faults (s.pathAs kind name) content = (t', r)) := by
  rw [storeAs_eq] at h
  split at h
  · rename_i valid
    exact Or.inr ⟨valid, h⟩
  · rename_i invalid
    cases h
    exact Or.inl ⟨eq_false_of_ne_true invalid, rfl, rfl⟩

theorem storeAs_error (kind : MaterialKind) {e : StoreError}
    (h : s.storeAs kind t faults name content = (t', .error e)) : t.Rewrites [] t' := by
  rcases storeAs_cases h with ⟨_, rfl, _⟩ | ⟨_, store⟩
  · exact FileTree.Rewrites.refl _ _
  · exact store_error store

theorem storeAs_ok (kind : MaterialKind) {stored : Stored}
    (h : s.storeAs kind t faults name content = (t', .ok stored)) :
    isValidName (kind.fileName name) = true ∧ Stores t ⟨s.pathAs kind name, content⟩ t' := by
  rcases storeAs_cases h with ⟨_, _, refused⟩ | ⟨valid, store⟩
  · simp at refused
  · exact ⟨valid, store_ok store⟩

theorem storeAs_touches (kind : MaterialKind)
    (h : s.storeAs kind t faults name content = (t', r)) :
    t' = t ∨ (isValidName (kind.fileName name) = true ∧ t.Touches [s.pathAs kind name] t') := by
  rcases storeAs_cases h with ⟨_, same, _⟩ | ⟨valid, store⟩
  · exact Or.inl same
  · exact Or.inr ⟨valid, store_touches store⟩

namespace Stores

variable {p : Piece} {t₀ : FileTree} {q : String} {last : Option Bytes}

theorem rewrites (h : Stores t p t') : t.Rewrites [p.path] t' := by
  rcases h with ⟨rfl, _⟩ | ⟨hrewrites, _⟩
  · exact FileTree.Rewrites.refl _ _
  · exact hrewrites

/-- **What was stored is what its file holds**, as long as no other content passes for it. -/
theorem holds (h : Stores t p t') (before : t₀.Holds p.path last t) (straight : t₀.Straight p.path)
    (known : ∀ c, last = some c ∨ t₀.Shows p.path c →
      contentIdentity c = contentIdentity p.content → c = p.content) :
    t₀.Holds p.path (some p.content) t' := by
  refine before.overwritten h.rewrites ?_
  rcases h with ⟨rfl, found, hread, same⟩ | ⟨_, hread⟩
  · -- the file was left alone, so its content is one that is known
    have origin : last = some found ∨ t₀.Shows p.path found := by
      rcases before.of_read hread with written | ⟨_, shown⟩
      · exact Or.inl written
      · exact Or.inr shown
    rw [hread, known found origin same]
  · exact hread (before.straight straight)

end Stores

/-- The tree after some pieces were stored one by one, with directories made in between. -/
inductive Deposits (t : FileTree) : List Piece → FileTree → Prop
  | nil : Deposits t [] t
  | grown {ps : List Piece} {t' t'' : FileTree} (before : Deposits t ps t')
      (made : t'.Rewrites [] t'') : Deposits t ps t''
  | stored {ps : List Piece} {p : Piece} {t' t'' : FileTree} (before : Deposits t ps t')
      (stores : Stores t' p t'') : Deposits t (ps ++ [p]) t''

theorem Deposits.trans {ps qs : List Piece} {t'' : FileTree} (h : Deposits t ps t')
    (h' : Deposits t' qs t'') : Deposits t (ps ++ qs) t'' := by
  induction h' with
  | nil => simpa using h
  | grown _ made ih => exact ih.grown made
  | stored _ stores ih => rw [← List.append_assoc]; exact ih.stored stores

theorem Deposits.rewrites {ps : List Piece} (h : Deposits t ps t') :
    t.Rewrites (ps.map (·.path)) t' := by
  induction h with
  | nil => exact FileTree.Rewrites.refl t _
  | grown _ made ih => exact ih.trans (made.mono (by simp))
  | stored _ stores ih => exact (ih.mono (by simp)).trans (stores.rewrites.mono (by simp))

/-! ## The material of a snapshot -/

/-- The file of a certificate. -/
def certificatePiece (store : MaterialStore) (certificate : Certificate) : Piece :=
  ⟨store.certificatePath certificate.name, Utf8.encode certificate.pem⟩

/-- The file of Diffie-Hellman parameters. -/
def dhParamPiece (store : MaterialStore) (parameters : DhParam) : Piece :=
  ⟨store.dhParamPath parameters.name, Utf8.encode parameters.content⟩

/-- The files of a snapshot's default material. -/
def material (store : MaterialStore) (snapshot : Snapshot) : List Piece :=
  (snapshot.defaultCertificate.map store.certificatePiece).toList ++
    (snapshot.dhParam.map store.dhParamPiece).toList

/-- Those among them whose names the store takes. No other file is ever written for a snapshot's
material. -/
def storable (store : MaterialStore) (snapshot : Snapshot) : List Piece :=
  ((snapshot.defaultCertificate.filter fun x => takesCertificate x.name).map
      store.certificatePiece).toList ++
    ((snapshot.dhParam.filter fun x => isValidName x.name).map store.dhParamPiece).toList

/-- The paths of these files. -/
def ways (store : MaterialStore) (snapshot : Snapshot) : List String :=
  (store.storable snapshot).map (·.path)

variable {snapshot : Snapshot}

theorem storable_subset (store : MaterialStore) (snapshot : Snapshot) :
    store.storable snapshot ⊆ store.material snapshot := by
  intro f hf
  rw [storable, List.mem_append] at hf
  rw [material, List.mem_append]
  rcases hf with hf | hf
  · obtain ⟨x, ⟨hx, _⟩, rfl⟩ : ∃ x, (snapshot.defaultCertificate = some x ∧
        takesCertificate x.name = true) ∧ store.certificatePiece x = f := by
      simpa [Option.filter_eq_some_iff] using hf
    exact Or.inl (by simp [hx])
  · obtain ⟨x, ⟨hx, _⟩, rfl⟩ : ∃ x, (snapshot.dhParam = some x ∧ isValidName x.name = true) ∧
        store.dhParamPiece x = f := by
      simpa [Option.filter_eq_some_iff] using hf
    exact Or.inr (by simp [hx])

theorem certificatePiece_storable (store : MaterialStore) {certificate : Certificate}
    (h : snapshot.defaultCertificate = some certificate)
    (takes : takesCertificate certificate.name = true) :
    store.certificatePiece certificate ∈ store.storable snapshot := by
  rw [storable, h, Option.filter_some, if_pos takes]
  simp

theorem dhParamPiece_storable (store : MaterialStore) {parameters : DhParam}
    (h : snapshot.dhParam = some parameters) (valid : isValidName parameters.name = true) :
    store.dhParamPiece parameters ∈ store.storable snapshot := by
  rw [storable, h, Option.filter_some, if_pos valid]
  simp

end MaterialStore

end IngressControl
